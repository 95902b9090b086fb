/-
**What a refused source is refused for.**

Every part of the parser takes a word of its production. If it fails, then on a fault of the text
right behind what was taken, or on a token that no word of the production has at this point, or for
what the tokens taken mean: a number that is out of range, or a shape that is defined twice.

* `Blamed` — an error, by what it is blamed on.
* `Parses` — a parser at a cursor takes words of a language, and its errors are to blame. It is kept
  by the steps of the parser (`Parses.bind`, `parses_expect`, …) and by the choice that the current
  token settles (`Parses.branch`).
* `parses_manyWhile_then` — repetition, up to what follows it.
* `parses_expression`, `parses_instruction`, `parses_shape`, … — one lemma for each production.
* **`Parser.parses_declarations`** — all declarations and the end of the source behind them.
-/

import TurtleScene.Proofs.Viability

namespace TurtleScene

open Computability

/-! ### Errors and what they are blamed on -/

/-- An error about what the tokens of a stretch mean, at the place from one of them to another. -/
inductive Misjudged (read : List Token) : ParseError → Prop
  | integer {first last : Token} (text : String) : first ∈ read → last ∈ read →
      Misjudged read (.integerOutOfRange text (first.span.merge last.span))
  | decimal {first last : Token} (text : String) : first ∈ read → last ∈ read →
      last.kind = .decimal text → Binary64.read? text.toList = none →
      Misjudged read (.malformedDecimal text (first.span.merge last.span))
  | duplicate {first last : Token} (name : String) : first ∈ read → last ∈ read →
      Misjudged read (.duplicateShape name (first.span.merge last.span))

theorem Misjudged.mono {read more : List Token} {error : ParseError}
    (misjudged : Misjudged read error) (within : read ⊆ more) : Misjudged more error := by
  cases misjudged with
  | integer text first last => exact .integer text (within first) (within last)
  | decimal text first last isDecimal unread =>
    exact .decimal text (within first) (within last) isDecimal unread
  | duplicate name first last => exact .duplicate name (within first) (within last)

/-- **What an error is blamed on**, where a word of a language is asked for from a cursor on. -/
inductive Blamed (language : Language TokenKind) (cursor : Cursor) : ParseError → Prop
  /-- A fault of the text behind the tokens taken. -/
  | fault {read : List Token} {stop : Cursor} {error : LexicalError} {ahead : TokenStream} :
      Reads cursor read stop → stop.ahead.next = (.fault error, ahead) →
      Blamed language cursor (.lexical error)
  /-- A token with which no word goes on behind the tokens taken. -/
  | offence {read : List Token} {stop : Cursor} (expected : Expectation) :
      Reads cursor read stop → Refuses language (kinds read) stop.current.kind →
      Blamed language cursor (.unexpected expected stop.current)
  /-- What the tokens taken mean. -/
  | meaning {read : List Token} {stop : Cursor} {error : ParseError} :
      Reads cursor read stop → Misjudged read error → Blamed language cursor error

namespace Blamed

variable {language other : Language TokenKind} {cursor after : Cursor} {error : ParseError}

theorem before [HasWord other] (blamed : Blamed language cursor error) :
    Blamed (language * other) cursor error := by
  cases blamed with
  | fault reads isFault => exact .fault reads isFault
  | offence expected reads refuses => exact .offence expected reads refuses.before
  | meaning reads misjudged => exact .meaning reads misjudged

theorem behind [PrefixFree language] {word : List Token} (reads : Reads cursor word after)
    (member : kinds word ∈ language) (blamed : Blamed other after error) :
    Blamed (language * other) cursor error := by
  cases blamed with
  | fault further isFault => exact .fault (reads_append.mpr ⟨after, reads, further⟩) isFault
  | offence expected further refuses =>
    refine .offence expected (reads_append.mpr ⟨after, reads, further⟩) ?_
    rw [kinds_append]
    exact refuses.behind member
  | meaning further misjudged =>
    exact .meaning (reads_append.mpr ⟨after, reads, further⟩)
      (misjudged.mono (List.subset_append_right _ _))

theorem branch (blamed : Blamed language cursor error)
    (part : ∀ word ∈ language, word ∈ other)
    (settles : ∀ word ∈ other, word ∈ language ∨ Opens (· ≠ cursor.current.kind) word) :
    Blamed other cursor error := by
  cases blamed with
  | fault reads isFault => exact .fault reads isFault
  | @offence read stop expected reads refuses =>
    refine .offence expected reads (refuses.branch ?_ part settles)
    cases read with
    | nil =>
      cases reads
      rfl
    | cons token others =>
      rw [reads.current_eq]
      rfl
  | meaning reads misjudged => exact .meaning reads misjudged

end Blamed

namespace Parser

variable {α β : Type} {language other : Language TokenKind} {cursor : Cursor}

/-! ### Steps that fail -/

theorem bind_error_iff {first : Parser α} {next : α → Parser β} {last : Cursor}
    {error : ParseError} :
    (first >>= next) cursor = .error error last ↔ first cursor = .error error last ∨
      ∃ found after, first cursor = .ok found after ∧ next found after = .error error last := by
  show EStateM.bind first next cursor = _ ↔ _
  unfold EStateM.bind
  cases first cursor with
  | ok found after => simp
  | error error after => simp

theorem bind_congr_at {first moved : Parser α} {next : α → Parser β}
    (same : first cursor = moved cursor) : (first >>= next) cursor = (moved >>= next) cursor := by
  show EStateM.bind _ _ cursor = EStateM.bind _ _ cursor
  unfold EStateM.bind
  rw [same]

/-- What cannot be taken is followed by a fault of the text. -/
theorem advance_error {last : Cursor} {error : ParseError}
    (failed : advance cursor = .error error last) :
    ∃ fault ahead, cursor.ahead.next = (.fault fault, ahead) ∧ error = .lexical fault := by
  unfold advance at failed
  split at failed
  · cases failed
  · rename_i fault ahead isNext
    cases failed
    exact ⟨fault, ahead, isNext, rfl⟩

theorem integerOperand_error {text : String} {span : Span} {last : Cursor} {error : ParseError}
    (failed : integerOperand text span cursor = .error error last) :
    error = .integerOutOfRange text span := by
  unfold integerOperand at failed
  cases isValue : Integer.read? text.toList with
  | some value => rw [isValue] at failed; cases failed
  | none => rw [isValue] at failed; cases failed; rfl

theorem decimalNumber_error {text : String} {span : Span} {last : Cursor} {error : ParseError}
    (failed : decimalNumber text span cursor = .error error last) :
    Binary64.read? text.toList = none ∧ error = .malformedDecimal text span := by
  unfold decimalNumber at failed
  cases isValue : Binary64.read? text.toList with
  | some value => rw [isValue] at failed; cases failed
  | none => rw [isValue] at failed; cases failed; exact ⟨rfl, rfl⟩

/-! ### Parsers of a language -/

/-- **A parser at a cursor takes words of a language**, and its errors are to blame. -/
structure Parses (reader : Parser α) (language : Language TokenKind) (cursor : Cursor) : Prop where
  takes : ∀ {value last}, reader cursor = .ok value last →
    ∃ read, Reads cursor read last ∧ kinds read ∈ language
  blames : ∀ {error last}, reader cursor = .error error last → Blamed language cursor error

namespace Parses

variable {reader : Parser α}

theorem congr {moved : Parser α} (parses : Parses moved language cursor)
    (same : reader cursor = moved cursor) : Parses reader language cursor :=
  ⟨fun done => parses.takes (same ▸ done), fun failed => parses.blames (same ▸ failed)⟩

/-- One alternative is parsed where the current token settles that it is this one. -/
theorem branch (parses : Parses reader language cursor)
    (part : ∀ word ∈ language, word ∈ other)
    (settles : ∀ word ∈ other, word ∈ language ∨ Opens (· ≠ cursor.current.kind) word) :
    Parses reader other cursor := by
  refine ⟨fun done => ?_, fun failed => (parses.blames failed).branch part settles⟩
  obtain ⟨read, reads, member⟩ := parses.takes done
  exact ⟨read, reads, part _ member⟩

theorem bind [PrefixFree language] [HasWord other] {next : α → Parser β}
    (first : Parses reader language cursor)
    (others : ∀ value after, reader cursor = .ok value after → Parses (next value) other after) :
    Parses (reader >>= next) (language * other) cursor := by
  constructor
  · intro value last done
    obtain ⟨found, after, isFirst, done⟩ := bind_ok_iff.mp done
    obtain ⟨read, reads, member⟩ := first.takes isFirst
    obtain ⟨further, behind, inOther⟩ := (others found after isFirst).takes done
    refine ⟨read ++ further, reads_append.mpr ⟨after, reads, behind⟩, ?_⟩
    rw [kinds_append]
    exact Language.append_mem_mul member inOther
  · intro error last failed
    rcases bind_error_iff.mp failed with isFirst | ⟨found, after, isFirst, failed⟩
    · exact (first.blames isFirst).before
    · obtain ⟨read, reads, member⟩ := first.takes isFirst
      exact ((others found after isFirst).blames failed).behind reads member

/-- A value made from what a parser gives. -/
theorem map {make : α → β} (parses : Parses reader language cursor) :
    Parses (do return make (← reader)) language cursor := by
  constructor
  · intro value last done
    obtain ⟨found, after, read, done⟩ := bind_ok_iff.mp done
    obtain ⟨_, rfl⟩ := pure_ok_iff.mp done
    exact parses.takes read
  · intro error last failed
    rcases bind_error_iff.mp failed with read | ⟨found, after, _, failed⟩
    · exact parses.blames read
    · cases failed

theorem discard (parses : Parses reader language cursor) :
    Parses (Functor.discard reader) language cursor := parses.map

end Parses

theorem parses_current_then {next : Token → Parser α}
    (parses : Parses (next cursor.current) language cursor) :
    Parses (current >>= next) language cursor := parses.congr rfl

theorem parses_pure (value : α) : Parses (pure value) 1 cursor :=
  ⟨fun done => ⟨[], (pure_ok_iff.mp done).2, rfl⟩, nofun⟩

/-- A token that begins no word is refused. -/
theorem parses_refuse [HasWord language] (expected : Expectation)
    (each : ∀ word ∈ language, Opens (· ≠ cursor.current.kind) word) :
    Parses (refuse expected : Parser α) language cursor := by
  refine ⟨fun done => (refuse_ne_ok done).elim, fun failed => ?_⟩
  cases failed
  exact .offence expected (reads_nil.mpr rfl) (.first each)

theorem parses_advance {kind : TokenKind} (isKind : cursor.current.kind = kind) :
    Parses advance (terminal kind) cursor := by
  constructor
  · intro token last taken
    refine ⟨[token], reads_singleton.mpr taken, ?_⟩
    rw [← (advance_ok_iff.mp taken).1, ← isKind]
    rfl
  · intro error last failed
    obtain ⟨fault, ahead, isFault, rfl⟩ := advance_error failed
    exact .fault (reads_nil.mpr rfl) isFault

theorem parses_expect (kind : TokenKind) [HasWord (terminal kind)] :
    Parses (expect kind) (terminal kind) cursor := by
  refine parses_current_then ?_
  show Parses (if cursor.current.kind = kind then advance else _) _ _
  split
  · rename_i isKind
    exact parses_advance isKind
  · rename_i different
    exact parses_refuse _ (opens_terminal (Ne.symm different))

theorem parses_identifier : Parses identifier anyName cursor := by
  refine parses_current_then ?_
  obtain ⟨⟨kind, place⟩, ahead⟩ := cursor
  cases kind with
  | identifier name =>
    refine (parses_advance rfl).map.branch ?_ ?_
    · rintro _ rfl
      exact ⟨name, rfl⟩
    · rintro _ ⟨text, rfl⟩
      by_cases same : text = name
      · exact .inl (same ▸ rfl)
      · exact .inr (.cons [] fun isName => same (TokenKind.identifier.inj isName))
  | keyword _ | mark _ | integer _ | decimal _ | string _ | color _ | endOfFile =>
    refine parses_refuse _ ?_
    rintro _ ⟨name, rfl⟩
    exact .cons [] nofun

/-! ### Repetition -/

/-- A member is taken and the others behind it, if taking it makes progress. -/
theorem manyWhile_eq_of_begun {begins : TokenKind → Bool} {member : List α → Parser α}
    {earlier : List α} (begun : begins cursor.current.kind = true)
    (progress : ∀ value after, member earlier cursor = .ok value after →
      after.remaining < cursor.remaining) :
    manyWhile begins member earlier cursor = (member earlier >>= fun value =>
      manyWhile begins member (value :: earlier) >>= fun others => pure (value :: others))
        cursor := by
  rw [manyWhile, if_pos begun]
  show _ = EStateM.bind _ _ cursor
  unfold EStateM.bind
  cases isFirst : member earlier cursor with
  | error error after => rfl
  | ok value after =>
    dsimp only
    rw [if_pos (progress value after isFirst)]
    show _ = EStateM.bind _ _ after
    unfold EStateM.bind
    cases manyWhile begins member (value :: earlier) after <;> rfl

/-- **Repetition**, for members and a continuation of which the current token tells which it is. -/
theorem parses_manyWhile_then {begins : TokenKind → Bool} {member : List α → Parser α}
    [PrefixFree language] [HasWord other] (ends : begins .endOfFile = false)
    (starts : ∀ word ∈ language, Opens (begins · = true) word)
    (stops : ∀ word ∈ other, Opens (begins · = false) word)
    (each : ∀ earlier cursor, Parses (member earlier) language cursor)
    {next : List α → Parser β} (last : ∀ values cursor, Parses (next values) other cursor)
    (earlier : List α) :
    Parses (manyWhile begins member earlier >>= next) (language∗ * other) cursor := by
  -- a word is that of a member in front of others, or there is no member and it is the last one
  have unfolded : ∀ word ∈ language∗ * other,
      word ∈ language * (language∗ * other) ∨ word ∈ other := by
    rintro _ ⟨front, inStar, behind, inOther, rfl⟩
    rw [← Language.one_add_self_mul_kstar_eq_kstar] at inStar
    rcases inStar with isNil | ⟨first, inFirst, others, inOthers, rfl⟩
    · cases isNil
      exact .inr inOther
    · refine .inl ?_
      show first ++ others ++ behind ∈ _
      rw [List.append_assoc]
      exact Language.append_mem_mul inFirst (Language.append_mem_mul inOthers inOther)
  induction size : cursor.remaining using Nat.strong_induction_on
    generalizing cursor earlier next with
  | _ size ih =>
    subst size
    by_cases begun : begins cursor.current.kind = true
    · have progress : ∀ value after, member earlier cursor = .ok value after →
          after.remaining < cursor.remaining := by
        intro value after done
        obtain ⟨read, reads, inLanguage⟩ := (each earlier cursor).takes done
        cases read with
        | nil => cases starts _ inLanguage
        | cons token more =>
          refine reads.remaining_lt fun isEnd => ?_
          rw [← reads.current_eq] at isEnd
          rw [isEnd, ends] at begun
          cases begun
      have unrolled : (manyWhile begins member earlier >>= next) cursor =
          (member earlier >>= fun value => manyWhile begins member (value :: earlier) >>=
            fun others => next (value :: others)) cursor := by
        rw [bind_congr_at (manyWhile_eq_of_begun begun progress)]
        simp only [bind_assoc, pure_bind]
      have parses : Parses (manyWhile begins member earlier >>= next)
          (language * (language∗ * other)) cursor := by
        refine Parses.congr ((each earlier cursor).bind fun value after done => ?_) unrolled
        exact ih _ (progress value after done) (fun values => last (value :: values)) _ rfl
      refine parses.branch ?_ fun word member => (unfolded word member).imp_right fun inOther => ?_
      · intro word member
        rw [← mul_assoc] at member
        exact mul_le_mul_left mul_kstar_le_kstar other member
      · refine (stops word inOther).mono fun kind ended same => ?_
        rw [same, begun] at ended
        cases ended
    · have unrolled : (manyWhile begins member earlier >>= next) cursor = next [] cursor := by
        have none : manyWhile begins member earlier cursor =
            (pure [] : Parser (List α)) cursor := by
          rw [manyWhile, if_neg begun]
          rfl
        rw [bind_congr_at none, pure_bind]
      refine ((last [] cursor).congr unrolled).branch ?_
        fun word member => (unfolded word member).symm.imp_right fun inMembers => ?_
      · intro word member
        exact Language.append_mem_mul (Language.nil_mem_kstar language) member
      · exact (opens_mul starts word inMembers).mono fun kind begins same => begun (same ▸ begins)

/-! ### Operands -/

/-- Behind a minus sign, an expression goes on with a number only. -/
theorem refuses_minus {kind : TokenKind} (noInteger : ∀ digits, kind ≠ .integer digits)
    (noDecimal : ∀ text, kind ≠ .decimal text) :
    Refuses (words ExpressionTree.tokens) [.mark .minus] kind := by
  refine ⟨⟨[.integer "0"], ⟨.negativeInteger (.point 0) "0" (.point 0), rfl⟩,
    List.forall_mem_singleton.mpr .integer⟩, ?_⟩
  rintro _ ⟨tree, rfl⟩ behind begins
  cases tree with
  | integer _ _ | decimal _ _ | string _ _ | name _ _ =>
    cases (List.cons_prefix_cons.mp begins).1
  | negativeInteger _ digits _ =>
    exact noInteger digits
      (List.cons_prefix_cons.mp (List.cons_prefix_cons.mp begins).2).1.symm
  | negativeDecimal _ text _ =>
    exact noDecimal text
      (List.cons_prefix_cons.mp (List.cons_prefix_cons.mp begins).2).1.symm

/-- What is blamed where a number behind a minus sign cannot be read. -/
theorem negated_blames {minus : Span} {after last : Cursor} {error : ParseError}
    (taken : advance cursor = .ok ⟨.mark .minus, minus⟩ after)
    (failed : negated ⟨.mark .minus, minus⟩ after = .error error last) :
    Blamed (words ExpressionTree.tokens) cursor error := by
  have reads := reads_singleton.mpr taken
  rcases bind_error_iff.mp failed with isFirst | ⟨⟨kind, place⟩, behind, further, failed⟩
  · obtain ⟨fault, ahead, isFault, rfl⟩ := advance_error isFirst
    exact .fault reads isFault
  · have both := reads_append.mpr ⟨after, reads, reads_singleton.mpr further⟩
    have isCurrent := (advance_ok_iff.mp further).1
    cases kind with
    | integer digits =>
      rw [integerOperand_error failed]
      exact .meaning both (.integer ("-" ++ digits) List.mem_cons_self
        (List.mem_cons_of_mem _ List.mem_cons_self))
    | decimal text =>
      rcases bind_error_iff.mp failed with misread | ⟨number, _, _, failed⟩
      · obtain ⟨unread, rfl⟩ := decimalNumber_error misread
        exact .meaning both (.decimal text List.mem_cons_self
          (List.mem_cons_of_mem _ List.mem_cons_self) rfl unread)
      · cases failed
    | keyword _ | mark _ | identifier _ | string _ | color _ | endOfFile =>
      cases failed
      rw [← isCurrent]
      refine .offence _ reads (refuses_minus ?_ ?_) <;> (rw [isCurrent]; nofun)

theorem parses_expression : Parses expression (words ExpressionTree.tokens) cursor := by
  constructor
  · intro operand last done
    obtain ⟨tree, _, _, reads⟩ := expression_ok_iff.mp done
    exact ⟨tree.tokens, reads, tree, rfl⟩
  · intro error last failed
    rcases bind_error_iff.mp failed with isFirst | ⟨⟨kind, place⟩, after, taken, failed⟩
    · obtain ⟨fault, ahead, isFault, rfl⟩ := advance_error isFirst
      exact .fault (reads_nil.mpr rfl) isFault
    · have reads := reads_singleton.mpr taken
      have isCurrent := (advance_ok_iff.mp taken).1
      -- a token that begins no expression is the current one, although it is taken
      have offence : (∀ word ∈ words ExpressionTree.tokens, Opens (· ≠ kind) word) →
          Blamed (words ExpressionTree.tokens) cursor (.unexpected .expression ⟨kind, place⟩) := by
        intro each
        rw [← isCurrent]
        refine .offence _ (reads_nil.mpr rfl) (.first ?_)
        rw [isCurrent]
        exact each
      cases kind with
      | integer digits =>
        rw [integerOperand_error failed]
        have misjudged := Misjudged.integer digits (List.mem_singleton_self _)
          (List.mem_singleton_self ⟨.integer digits, place⟩)
        rw [Span.merge_self] at misjudged
        exact .meaning reads misjudged
      | decimal text =>
        rcases bind_error_iff.mp failed with misread | ⟨number, _, _, failed⟩
        · obtain ⟨unread, rfl⟩ := decimalNumber_error misread
          have misjudged := Misjudged.decimal text (List.mem_singleton_self _)
            (List.mem_singleton_self ⟨.decimal text, place⟩) rfl unread
          rw [Span.merge_self] at misjudged
          exact .meaning reads misjudged
        · cases failed
      | string text | identifier name => cases failed
      | mark symbol =>
        cases symbol with
        | minus => exact negated_blames taken failed
        | leftBrace | rightBrace | leftParen | rightParen | semicolon | comma | equals =>
          cases failed
          refine offence ?_
          rintro _ ⟨tree, rfl⟩
          cases tree <;> exact .cons _ nofun
      | keyword _ | color _ | endOfFile =>
        cases failed
        refine offence ?_
        rintro _ ⟨tree, rfl⟩
        cases tree <;> exact .cons _ nofun

theorem opens_expression :
    ∀ word ∈ words ExpressionTree.tokens, Opens (endsOperand · = false) word := by
  rintro _ ⟨tree, rfl⟩
  cases tree <;> exact .cons _ rfl

/-- An operand, or none, and what follows it. -/
theorem parses_optionalExpression_then [HasWord language]
    (stops : ∀ word ∈ language, Opens (endsOperand · = true) word) {next : Operand → Parser α}
    (last : ∀ operand cursor, Parses (next operand) language cursor) :
    Parses (optionalExpression >>= next) (words optionalTokens * language) cursor := by
  by_cases ends : endsOperand cursor.current.kind = true
  · have absent : optionalExpression cursor =
        (pure ⟨.missing, Span.point cursor.current.span.start⟩ : Parser Operand) cursor :=
      congrFun (if_pos ends) cursor
    have unrolled : (optionalExpression >>= next) cursor = (pure _ >>= next) cursor :=
      bind_congr_at absent
    rw [pure_bind] at unrolled
    refine ((last _ cursor).congr unrolled).branch ?_ ?_
    · intro word member
      have left : [] ∈ words optionalTokens := ⟨none, rfl⟩
      exact Language.append_mem_mul left member
    · rintro _ ⟨_, ⟨content, rfl⟩, behind, member, rfl⟩
      cases content with
      | none => exact .inl member
      | some tree =>
        have inTree : kinds tree.tokens ∈ words ExpressionTree.tokens := ⟨tree, rfl⟩
        have opens := opens_mul opens_expression _ (Language.append_mem_mul inTree member)
        refine .inr (opens.mono fun kind inside same => ?_)
        rw [same, ends] at inside
        cases inside
  · have present : optionalExpression cursor = expression cursor := congrFun (if_neg ends) cursor
    refine ((parses_expression.bind fun operand after _ => last operand after).congr
      (bind_congr_at present)).branch ?_ ?_
    · rintro _ ⟨_, ⟨tree, rfl⟩, behind, member, rfl⟩
      exact Language.append_mem_mul ⟨some tree, rfl⟩ member
    · rintro _ ⟨_, ⟨content, rfl⟩, behind, member, rfl⟩
      cases content with
      | none =>
        exact .inr ((stops behind member).mono fun kind ended same => ends (same ▸ ended))
      | some tree => exact .inl (Language.append_mem_mul ⟨tree, rfl⟩ member)

theorem parses_argument : Parses argument (words ArgumentTree.tokens) cursor := by
  rw [words_argument]
  refine (parses_expect _).discard.bind fun _ after _ => ?_
  refine parses_optionalExpression_then (opens_terminal rfl) fun operand after => ?_
  exact (parses_expect _).discard.map

theorem parses_pair : Parses pair (words PairTree.tokens) cursor := by
  rw [words_pair]
  refine (parses_expect _).discard.bind fun _ after _ => ?_
  refine parses_optionalExpression_then (opens_mul (opens_terminal rfl)) fun x after => ?_
  refine (parses_expect _).discard.bind fun _ after _ => ?_
  refine parses_optionalExpression_then (opens_terminal rfl) fun y after => ?_
  exact (parses_expect _).discard.map

/-! ### Instructions -/

/-- The words behind the first kind of an instruction. -/
def formsBehind (kind : TokenKind) : Language TokenKind :=
  {word | ∃ tree : FormTree, tree.firstToken.kind = kind ∧ kinds tree.otherTokens = word}

theorem formsBehind_word_argument {word : Keyword}
    (isWord : word = .left ∨ word = .right ∨ word = .line) :
    formsBehind (.keyword word) = words ArgumentTree.tokens := by
  ext rest
  constructor
  · rintro ⟨tree, isFirst, rfl⟩
    rcases isWord with rfl | rfl | rfl
    all_goals
      cases tree <;> cases isFirst
      exact ⟨_, rfl⟩
  · rintro ⟨argument, rfl⟩
    rcases isWord with rfl | rfl | rfl
    · exact ⟨.left (.point 0) argument, rfl, rfl⟩
    · exact ⟨.right (.point 0) argument, rfl, rfl⟩
    · exact ⟨.line (.point 0) argument, rfl, rfl⟩

theorem formsBehind_word {word : Keyword} (isWord : word = .push ∨ word = .pop) :
    formsBehind (.keyword word) = 1 := by
  ext rest
  constructor
  · rintro ⟨tree, isFirst, rfl⟩
    rcases isWord with rfl | rfl
    all_goals
      cases tree <;> cases isFirst
      exact rfl
  · rintro rfl
    rcases isWord with rfl | rfl
    · exact ⟨.push (.point 0), rfl, rfl⟩
    · exact ⟨.pop (.point 0), rfl, rfl⟩

theorem formsBehind_jump : formsBehind (.keyword .jump) = words PairTree.tokens := by
  ext rest
  constructor
  · rintro ⟨tree, isFirst, rfl⟩
    cases tree <;> cases isFirst
    exact ⟨_, rfl⟩
  · rintro ⟨target, rfl⟩
    exact ⟨.jump (.point 0) target, rfl, rfl⟩

theorem formsBehind_name (name : String) : formsBehind (.identifier name) =
    terminal (.mark .equals) * words ExpressionTree.tokens + words ArgumentTree.tokens := by
  ext rest
  constructor
  · rintro ⟨tree, isFirst, rfl⟩
    cases tree <;> cases isFirst
    · exact .inl ⟨_, rfl, _, ⟨_, rfl⟩, rfl⟩
    · exact .inr ⟨_, rfl⟩
  · rintro (⟨_, rfl, _, ⟨value, rfl⟩, rfl⟩ | ⟨argument, rfl⟩)
    · exact ⟨.assign name (.point 0) (.point 0) value, rfl, rfl⟩
    · exact ⟨.call name (.point 0) argument, rfl, rfl⟩

/-- An instruction is parsed where its first token settles what it is. -/
theorem parses_form {reader : Parser α}
    (parses : Parses reader (terminal cursor.current.kind * formsBehind cursor.current.kind)
      cursor) : Parses reader (words FormTree.tokens) cursor := by
  refine parses.branch ?_ ?_
  · rintro _ ⟨_, rfl, _, ⟨tree, isFirst, rfl⟩, rfl⟩
    exact ⟨tree, congrArg (· :: kinds tree.otherTokens) isFirst⟩
  · rintro _ ⟨tree, rfl⟩
    by_cases isFirst : tree.firstToken.kind = cursor.current.kind
    · have same := congrArg (· :: kinds tree.otherTokens) isFirst.symm
      exact .inl ⟨_, rfl, _, ⟨tree, isFirst, rfl⟩, same⟩
    · exact .inr (.cons _ isFirst)

instance (name : String) : HasWord (formsBehind (.identifier name)) := by
  obtain ⟨_, ⟨argument, rfl⟩, occurs⟩ := exists_word (words ArgumentTree.tokens)
  exact ⟨_, ⟨.call name (.point 0) argument, rfl, rfl⟩, occurs⟩

theorem parses_callOrAssignment (name : String) :
    Parses (callOrAssignment name) (formsBehind (.identifier name)) cursor := by
  rw [formsBehind_name]
  refine parses_current_then ?_
  show Parses (if cursor.current.kind = .mark .equals then _ else _) _ _
  split
  · rename_i isEquals
    refine ((parses_advance isEquals).discard.bind fun _ _ _ => parses_expression.map).branch
      (fun _ => .inl) ?_
    rintro _ (assigned | ⟨argument, rfl⟩)
    · exact .inl assigned
    · exact .inr (.cons _ fun same => by cases same.trans isEquals)
  · rename_i different
    refine parses_argument.map.branch (fun _ => .inr) ?_
    rintro _ (⟨_, rfl, value, _, rfl⟩ | called)
    · exact .inr (.cons _ (Ne.symm different))
    · exact .inl called

theorem parses_instructionForm : Parses instructionForm (words FormTree.tokens) cursor := by
  refine parses_current_then ?_
  obtain ⟨⟨kind, place⟩, ahead⟩ := cursor
  cases kind with
  | keyword word =>
    cases word with
    | left | right | line =>
      refine parses_form ?_
      rw [formsBehind_word_argument (by simp)]
      exact (parses_advance rfl).discard.bind fun _ _ _ => parses_argument.map
    | push | pop =>
      refine parses_form ?_
      rw [formsBehind_word (by simp)]
      exact (parses_advance rfl).discard.bind fun _ _ _ => parses_pure _
    | jump =>
      refine parses_form ?_
      rw [formsBehind_jump]
      exact (parses_advance rfl).discard.bind fun _ _ _ => parses_pair.map
    | shape | pencil | rule | initiator | draw | position =>
      refine parses_refuse _ ?_
      rintro _ ⟨tree, rfl⟩
      cases tree <;> exact .cons _ nofun
  | identifier name =>
    have isName : Parses advance (terminal (.identifier name))
        ⟨⟨.identifier name, place⟩, ahead⟩ := parses_advance rfl
    exact parses_form (isName.discard.bind fun _ _ _ => parses_callOrAssignment name)
  | mark _ | integer _ | decimal _ | string _ | color _ | endOfFile =>
    refine parses_refuse _ ?_
    rintro _ ⟨tree, rfl⟩
    cases tree <;> exact .cons _ nofun

theorem parses_instruction : Parses instruction (words InstructionTree.tokens) cursor := by
  rw [words_instruction]
  refine parses_current_then ?_
  exact parses_instructionForm.bind fun _ _ _ => (parses_expect _).map

theorem parses_block : Parses block (words BlockTree.tokens) cursor := by
  rw [words_block]
  refine (parses_expect _).bind fun _ _ _ => ?_
  refine parses_manyWhile_then rfl ?_ (opens_terminal rfl) (fun _ _ => parses_instruction)
    (fun _ _ => (parses_expect _).map) []
  rintro _ ⟨tree, rfl⟩
  exact .cons _ (continuesBlock_firstToken tree.form)

/-! ### Shapes and draw statements -/

theorem parses_color : Parses color anyColor cursor := by
  refine parses_current_then ?_
  obtain ⟨⟨kind, place⟩, ahead⟩ := cursor
  -- a colour is parsed where it is the current token
  have ofTree : ∀ tree : ColorTree, tree.token.kind = kind →
      Parses (do return (tree.text, (← advance).span) : Parser (String × Span)) anyColor
        ⟨⟨kind, place⟩, ahead⟩ := by
    rintro tree rfl
    refine (parses_advance rfl).map.branch ?_ ?_
    · rintro _ rfl
      exact ⟨tree, rfl⟩
    · rintro _ ⟨other, rfl⟩
      by_cases same : other.token.kind = tree.token.kind
      · exact .inl (congrArg (fun kind => [kind]) same)
      · exact .inr (.cons [] same)
  cases kind with
  | identifier text => exact ofTree (.identifier text place) rfl
  | color text => exact ofTree (.color text place) rfl
  | string text => exact ofTree (.string text place) rfl
  | keyword _ | mark _ | integer _ | decimal _ | endOfFile =>
    refine parses_refuse _ ?_
    rintro _ ⟨tree, rfl⟩
    cases tree <;> exact .cons [] nofun

theorem parses_rule : Parses rule (words RuleTree.tokens) cursor := by
  rw [words_rule]
  refine (parses_expect _).bind fun _ _ _ => ?_
  refine parses_identifier.bind fun _ _ _ => ?_
  refine (parses_expect _).discard.bind fun _ _ _ => ?_
  refine parses_identifier.bind fun _ _ _ => ?_
  refine (parses_expect _).discard.bind fun _ _ _ => ?_
  exact parses_block.map

theorem parses_initiator : Parses initiator (words InitiatorTree.tokens) cursor := by
  rw [words_initiator]
  exact (parses_expect _).bind fun _ _ _ => parses_block.map

theorem parses_shape : Parses shape (words ShapeTree.tokens) cursor := by
  rw [words_shape]
  refine (parses_expect _).bind fun _ _ _ => ?_
  refine parses_identifier.bind fun _ _ _ => ?_
  refine (parses_expect _).discard.bind fun _ _ _ => ?_
  refine (parses_expect _).discard.bind fun _ _ _ => ?_
  refine parses_color.bind fun _ _ _ => ?_
  refine (parses_expect _).discard.bind fun _ _ _ => ?_
  refine parses_manyWhile_then rfl ?_ ?_ (fun _ _ => parses_rule) (fun _ _ => ?_) []
  · rintro _ ⟨tree, rfl⟩
    exact .cons _ rfl
  · refine opens_mul ?_
    rintro _ ⟨tree, rfl⟩
    exact .cons _ rfl
  · exact parses_initiator.bind fun _ _ _ => (parses_expect _).map

/-- The coordinates of a draw statement, or none, and its semicolon. -/
theorem parses_position_then (namePlace : Span) {next : Operand × Operand → Parser α}
    (last : ∀ operands cursor, Parses (next operands) (terminal (.mark .semicolon)) cursor) :
    Parses (position namePlace >>= next)
      (words positionTokens * terminal (.mark .semicolon)) cursor := by
  by_cases placed : cursor.current.kind = .keyword .position
  · have present : position namePlace cursor = (discard advance >>= fun _ => pair) cursor :=
      congrFun (if_pos placed) cursor
    have unrolled : (position namePlace >>= next) cursor =
        ((discard advance >>= fun _ => pair) >>= next) cursor := bind_congr_at present
    rw [bind_assoc] at unrolled
    refine (((parses_advance placed).discard.bind fun _ _ _ =>
      parses_pair.bind fun operands after _ => last operands after).congr unrolled).branch ?_ ?_
    · rintro _ ⟨_, rfl, _, ⟨_, ⟨target, rfl⟩, _, rfl, rfl⟩, rfl⟩
      exact ⟨_, ⟨some ⟨.point 0, target⟩, rfl⟩, _, rfl, rfl⟩
    · rintro _ ⟨_, ⟨content, rfl⟩, _, rfl, rfl⟩
      cases content with
      | none => exact .inr (.cons [] fun same => by cases same.trans placed)
      | some tree => exact .inl ⟨_, rfl, _, ⟨_, ⟨tree.target, rfl⟩, _, rfl, rfl⟩, rfl⟩
  · have absent : position namePlace cursor =
        (pure (⟨.missing, Span.point namePlace.stop⟩, ⟨.missing, Span.point namePlace.stop⟩) :
          Parser (Operand × Operand)) cursor := congrFun (if_neg placed) cursor
    have unrolled : (position namePlace >>= next) cursor = (pure _ >>= next) cursor :=
      bind_congr_at absent
    rw [pure_bind] at unrolled
    refine ((last _ cursor).congr unrolled).branch ?_ ?_
    · rintro _ rfl
      exact ⟨_, ⟨none, rfl⟩, _, rfl, rfl⟩
    · rintro _ ⟨_, ⟨content, rfl⟩, _, rfl, rfl⟩
      cases content with
      | none => exact .inl rfl
      | some tree => exact .inr (.cons _ (Ne.symm placed))

theorem parses_draw : Parses draw (words DrawTree.tokens) cursor := by
  rw [words_draw]
  refine (parses_expect _).bind fun _ _ _ => ?_
  refine parses_identifier.bind fun name _ _ => ?_
  exact parses_position_then _ fun _ _ => (parses_expect _).map

/-! ### Declarations -/

/-- A shape that is refused if its name is taken. -/
theorem parses_newShape (earlier : List Declaration) :
    Parses (do
        let definition ← shape
        if Declaration.defines earlier definition.name then
          throw (.duplicateShape definition.name definition.span)
        return Declaration.shape definition)
      (words ShapeTree.tokens) cursor := by
  constructor
  · intro value last done
    obtain ⟨definition, after, read, done⟩ := bind_ok_iff.mp done
    by_cases taken : Declaration.defines earlier definition.name = true
    · rw [if_pos taken] at done
      exact (throw_ne_ok done).elim
    · rw [if_neg taken] at done
      obtain ⟨_, rfl⟩ := pure_ok_iff.mp done
      exact parses_shape.takes read
  · intro error last failed
    rcases bind_error_iff.mp failed with isFirst | ⟨definition, after, read, failed⟩
    · exact parses_shape.blames isFirst
    · obtain ⟨tree, _, rfl, reads⟩ := shape_ok_iff.mp read
      by_cases taken : Declaration.defines earlier tree.shape.name = true
      · rw [if_pos taken] at failed
        cases failed
        have opening : (⟨.keyword .shape, tree.word⟩ : Token) ∈ tree.tokens := List.mem_cons_self
        have closing : (⟨.mark .rightBrace, tree.closing⟩ : Token) ∈ tree.tokens := by
          simp [ShapeTree.tokens]
        exact .meaning reads (.duplicate tree.name opening closing)
      · rw [if_neg taken] at failed
        cases failed

theorem parses_declaration (earlier : List Declaration) :
    Parses (declaration earlier) (words ItemTree.tokens) cursor := by
  refine parses_current_then ?_
  obtain ⟨⟨kind, place⟩, ahead⟩ := cursor
  cases kind with
  | keyword word =>
    cases word with
    | shape =>
      refine (parses_newShape earlier).branch ?_ ?_
      · rintro _ ⟨tree, rfl⟩
        exact ⟨.shape tree, rfl⟩
      · rintro _ ⟨tree, rfl⟩
        cases tree with
        | shape definition => exact .inl ⟨definition, rfl⟩
        | draw statement => exact .inr (.cons _ nofun)
    | draw =>
      refine parses_draw.map.branch ?_ ?_
      · rintro _ ⟨tree, rfl⟩
        exact ⟨.draw tree, rfl⟩
      · rintro _ ⟨tree, rfl⟩
        cases tree with
        | shape definition => exact .inr (.cons _ nofun)
        | draw statement => exact .inl ⟨statement, rfl⟩
    | pencil | rule | initiator | position | left | right | line | push | pop | jump =>
      refine parses_refuse _ ?_
      rintro _ ⟨tree, rfl⟩
      cases tree <;> exact .cons _ nofun
  | mark _ | identifier _ | integer _ | decimal _ | string _ | color _ | endOfFile =>
    refine parses_refuse _ ?_
    rintro _ ⟨tree, rfl⟩
    cases tree <;> exact .cons _ nofun

/-- **All declarations are parsed as the words of a scene**, and the end of the source behind
them. -/
theorem parses_declarations :
    Parses (manyWhile (· ≠ .endOfFile) declaration [] >>= fun _ => expect .endOfFile)
      (words SceneTree.tokens * terminal .endOfFile) cursor := by
  rw [words_scene]
  refine parses_manyWhile_then rfl ?_ (opens_terminal rfl)
    (fun earlier _ => parses_declaration earlier) (fun _ _ => parses_expect _) []
  rintro _ ⟨tree, rfl⟩
  cases tree <;> exact .cons _ rfl

end Parser

end TurtleScene
