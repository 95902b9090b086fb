/-
**Integers as operands.**

An integer is written in digits, of which there may be any number, or in a minus sign and digits,
with spacing between the two. Where the parser comes to it, it gives that very number if the number
has 64 bits, its sign included, and refuses the source otherwise; a fault right behind it is met
first.

* `itemsFrom_digits`, `WritesInteger.exists_expression` — the tokens of an integer.
* `Parser.expression_outOfRange` — what an operand gives that is an integer of too many bits.
* `Scene.parse_fault_behind`, `Scene.takes_expression` — what a source gives that has an expression
  behind a front, whatever the expression is.
* `Scene.answersInteger` — what a source gives that has an integer behind a front.
* `Integer.writesInteger_write` — what is printed for an integer writes it.
* **`Scene.parse_integers`** — every integer that the parser comes to, and every one of a scene.
-/

import TurtleScene.Proofs.OperandLines
import TurtleScene.Proofs.OperandPlaces
import TurtleScene.Proofs.Spacing

namespace TurtleScene

open Text

/-! ### Integers in a text -/

/-- What stands behind digits does not go on with their number: it begins neither with a digit nor
with a point that has a digit behind it. -/
structure EndsNumber (behind : List Char) : Prop where
  noDigit : ∀ head ∈ behind.head?, head.isDigit = false
  noFraction : ∀ digit more, behind = '.' :: digit :: more → digit.isDigit = false

theorem endsNumber_cons {stop : Char} (noDigit : stop.isDigit = false) (noPoint : stop ≠ '.')
    (more : List Char) : EndsNumber (stop :: more) where
  noDigit := by
    rintro _ ⟨⟩
    exact noDigit
  noFraction := by
    rintro _ _ ⟨⟩
    exact (noPoint rfl).elim

/-- Digits end where something else begins. -/
theorem digits_append {digits behind : List Char}
    (each : ∀ character ∈ digits, character.isDigit = true)
    (ends : ∀ head ∈ behind.head?, head.isDigit = false) :
    (digits ++ behind).takeWhile Char.isDigit = digits ∧
      (digits ++ behind).dropWhile Char.isDigit = behind := by
  rw [List.takeWhile_append_of_pos each, List.dropWhile_append_of_pos each]
  cases behind with
  | nil => exact ⟨List.append_nil digits, rfl⟩
  | cons first others => simp [ends first rfl]

/-- Digits are one token. -/
theorem itemsFrom_digits {digits behind : List Char}
    (isInteger : digits ∈ Pattern.integer.language) (ends : EndsNumber behind) (offset : Nat) :
    itemsFrom offset (digits ++ behind) =
      .token ⟨.integer (String.ofList digits), ⟨offset, offset + byteLength digits⟩⟩ ::
        itemsFrom (offset + byteLength digits) behind := by
  obtain ⟨nonempty, each⟩ := Pattern.mem_integer.mp isInteger
  obtain ⟨head, tail, rfl⟩ := List.exists_cons_of_ne_nil nonempty
  obtain ⟨isDigit, inTail⟩ := List.forall_mem_cons.mp each
  obtain ⟨covered, rest⟩ := digits_append inTail ends.noDigit
  have lexeme : Lexeme.first head (tail ++ behind) =
      ⟨.token (.integer (String.ofList (head :: tail))), head :: tail, behind⟩ := by
    rw [Lexeme.first_of_isDigit _ isDigit]
    rcases Lexeme.number_eq head (tail ++ behind) with
      ⟨digit, more, point, digitBehind, _⟩ | ⟨_, same⟩
    · rw [rest] at point
      rw [ends.noFraction digit more point] at digitBehind
      cases digitBehind
    · rw [same, covered, rest]
  rw [List.cons_append, itemsFrom_cons, lexeme]
  rfl

/-- A minus sign is one token, and the spacing behind it is none. -/
theorem itemsFrom_minus {gap : List Char} (spacing : Spacing gap) (behind : List Char)
    (offset : Nat) :
    itemsFrom offset ('-' :: (gap ++ behind)) =
      .token ⟨.mark .minus, ⟨offset, offset + 1⟩⟩ ::
        itemsFrom (offset + 1 + byteLength gap) behind := by
  have sign : Lexeme.first '-' (gap ++ behind) =
      ⟨.token (.mark .minus), ['-'], gap ++ behind⟩ := Lexeme.first_mark .minus _
  rw [itemsFrom_cons, sign, ← itemsFrom_spacing spacing]
  rfl

/-- What stands behind a minus sign and a gap ends where the whole text does. -/
theorem offset_add_signed (offset : Nat) (gap behind : List Char) :
    offset + byteLength ('-' :: (gap ++ behind)) =
      offset + 1 + byteLength gap + byteLength behind := by
  rw [byteLength_cons, byteLength_append]
  show offset + (1 + _) = offset + 1 + _ + _
  omega

/-- A sign and what stands behind it are one place, from the sign on. -/
theorem merge_sign (offset gap length : Nat) :
    Span.merge ⟨offset, offset + 1⟩ ⟨offset + 1 + gap, offset + 1 + gap + length⟩ =
      ⟨offset, offset + 1 + gap + length⟩ := by
  rw [Span.merge, Span.mk.injEq]
  dsimp only
  omega

/-- **How an integer is written.** The text is a numeral, that is digits or a minus sign and digits,
but for the spacing that may stand behind the sign. -/
inductive WritesInteger : List Char → List Char → Prop
  | positive {digits : List Char} : digits ∈ Pattern.integer.language →
    WritesInteger digits digits
  | negative {gap digits : List Char} : Spacing gap → digits ∈ Pattern.integer.language →
    WritesInteger ('-' :: (gap ++ digits)) ('-' :: digits)

/-- The numeral of an integer, its sign included. -/
def ExpressionTree.numeral? : ExpressionTree → Option (List Char)
  | .integer digits _ => some digits.toList
  | .negativeInteger _ digits _ => some ('-' :: digits.toList)
  | .decimal _ _ | .string _ _ | .name _ _ | .negativeDecimal _ _ _ => none

/-- The tokens of an integer in a text are those of an expression, which reaches over all of it. -/
theorem WritesInteger.exists_expression {stretch numeral behind : List Char}
    (writes : WritesInteger stretch numeral) (ends : EndsNumber behind) (offset : Nat) :
    ∃ tree : ExpressionTree, tree.numeral? = some numeral ∧
      tree.span = ⟨offset, offset + byteLength stretch⟩ ∧
        itemsFrom offset (stretch ++ behind) =
          tree.tokens.map Item.token ++ itemsFrom (offset + byteLength stretch) behind := by
  cases writes with
  | positive isInteger =>
    refine ⟨.integer (String.ofList stretch) _, ?_, rfl, itemsFrom_digits isInteger ends offset⟩
    rw [ExpressionTree.numeral?, String.toList_ofList]
  | @negative gap digits spacing isInteger =>
    let start := offset + 1 + byteLength gap
    have stop : offset + byteLength ('-' :: (gap ++ digits)) = start + byteLength digits :=
      offset_add_signed offset gap digits
    refine ⟨.negativeInteger ⟨offset, offset + 1⟩ (String.ofList digits)
      ⟨start, start + byteLength digits⟩, ?_, ?_, ?_⟩
    · rw [ExpressionTree.numeral?, String.toList_ofList]
    · rw [stop]
      exact merge_sign offset _ _
    · rw [List.cons_append, List.append_assoc, itemsFrom_minus spacing,
        itemsFrom_digits isInteger ends, stop]
      rfl

/-! ### Integers of 64 bits -/

/-- A numeral is digits behind its sign. -/
theorem WritesInteger.unsigned {stretch numeral : List Char}
    (writes : WritesInteger stretch numeral) :
    Integer.unsigned numeral ≠ [] ∧
      ∀ character ∈ Integer.unsigned numeral, character.isDigit = true := by
  cases writes with
  | positive isInteger =>
    obtain ⟨nonempty, each⟩ := Pattern.mem_integer.mp isInteger
    rw [Integer.unsigned_of_digits each]
    exact ⟨nonempty, each⟩
  | negative _ isInteger => exact Pattern.mem_integer.mp isInteger

/-- A numeral in range is read as the integer that it denotes, and no other numeral is. -/
theorem WritesInteger.read?_eq_some_iff {stretch numeral : List Char} {number : Int64}
    (writes : WritesInteger stretch numeral) :
    Integer.read? numeral = some number ↔ number.toInt = Integer.ofText numeral := by
  obtain ⟨nonempty, digits⟩ := writes.unsigned
  have isSome := Integer.isSome_read?_iff nonempty digits
  constructor
  · intro found
    obtain ⟨low, high⟩ := isSome.mp (Option.isSome_of_eq_some found)
    rw [← Integer.read?_eq_some found, Int64.toInt_ofInt_of_le low (by omega)]
  · intro same
    obtain ⟨other, found⟩ := Option.isSome_iff_exists.mp
      (isSome.mpr (same ▸ ⟨number.le_toInt, Int.le_sub_one_of_lt number.toInt_lt⟩))
    rw [found, ← Integer.read?_eq_some found, ← same, Int64.ofInt_toInt]

/-! ### Reading an integer -/

section Reading

variable {tree : ExpressionTree} {numeral : List Char} {cursor mid last : Cursor}

/-- An integer is read by its numeral. -/
theorem ExpressionTree.reading?_of_numeral (isNumeral : tree.numeral? = some numeral) :
    tree.reading? = (Integer.read? numeral).map .integer := by
  cases tree <;> cases isNumeral
  · rfl
  · rw [reading?, String.toList_append]
    rfl

theorem Parser.integerOperand_outOfRange {text : String} {span : Span}
    (missing : Integer.read? text.toList = none) :
    integerOperand text span cursor = .error (.integerOutOfRange text span) cursor := by
  rw [integerOperand, missing]
  rfl

/-- **An integer of more bits is refused**, and quoted with its sign in front of the digits. -/
theorem Parser.expression_outOfRange (isNumeral : tree.numeral? = some numeral)
    (missing : Integer.read? numeral = none) (reads : Reads cursor tree.tokens last) :
    expression cursor =
      .error (.integerOutOfRange (String.ofList numeral) tree.span) last := by
  cases tree with
  | integer digits place =>
    cases isNumeral
    rw [expression, bind_eq_of_ok (reads_singleton.mp reads), String.ofList_toList]
    exact integerOperand_outOfRange missing
  | negativeInteger minus digits place =>
    cases isNumeral
    obtain ⟨after, taken, behind⟩ := reads
    have text : String.ofList ('-' :: digits.toList) = "-" ++ digits := by
      rw [← String.toList_inj, String.toList_ofList, String.toList_append]
      rfl
    rw [expression, bind_eq_of_ok taken, text]
    show negated _ after = _
    rw [negated, bind_eq_of_ok (reads_singleton.mp behind)]
    refine integerOperand_outOfRange ?_
    rw [String.toList_append]
    exact missing
  | decimal _ _ | string _ _ | name _ _ | negativeDecimal _ _ _ => cases isNumeral

/-- A fault right behind an expression is met when its last token is taken. -/
theorem Parser.expression_fault {error : ParseError}
    (reads : Reads cursor tree.tokens.dropLast mid) (fails : advance mid = .error error last) :
    expression cursor = .error error last := by
  cases tree with
  | integer _ _ | decimal _ _ | string _ _ | name _ _ =>
    cases reads
    exact bind_error_iff.mpr (.inl fails)
  | negativeInteger _ _ _ | negativeDecimal _ _ _ =>
    rw [expression, bind_eq_of_ok (reads_singleton.mp reads)]
    exact bind_error_iff.mpr (.inl fails)

end Reading

/-! ### Printed integers -/

/-- What is printed for an integer writes it. -/
theorem Integer.writesInteger_write (number : Int64) :
    WritesInteger (write number) (write number) := by
  have isInteger : Numeral.write number.toInt.natAbs ∈ Pattern.integer.language :=
    Pattern.mem_integer.mpr ⟨Nat.toDigits_ne_nil, fun _ => Numeral.isDigit_of_mem_write⟩
  unfold write
  split
  · exact .negative .done isInteger
  · exact .positive isInteger

/-! ### Behind a front -/

/-- A source is cut in front of `rest`: what is read in front of the cut are the tokens of `front`,
and what is read behind it are the items of `rest`. -/
structure CutBehind (source : String) (front : List Token) (before rest : List Char) : Prop where
  text : source.toList = before ++ rest
  items : (TokenStream.ofSource source).ahead =
    front.map Item.token ++ itemsFrom (byteLength before) rest

/-- **The reading of a source takes an operand** behind the tokens of `front`, and goes on by `next`
with the items that stand behind the operand. -/
def Scene.Takes (source : String) (front : List Token) (next : Operand → Parser Scene)
    (operand : Operand) (others : List Item) : Prop :=
  ∃ start mid last : Cursor, Cursor.ofSource source = .ok start ∧ Reads start front mid ∧
    Parser.expression mid = .ok operand last ∧ Parser.scene start = next operand last ∧
      TokenStream.next ⟨others, (TokenStream.ofSource source).length⟩ =
        (.token last.current, last.ahead)

/-- **What a source gives that has an integer behind the tokens of `front`.** -/
structure AnswersInteger (source : String) (front : List Token) (next : Operand → Parser Scene)
    (numeral : List Char) (place : Span) (others : List Item) : Prop where
  /-- A fault right behind the integer is met first, whatever the integer is. -/
  fault : ∀ error more, others = .fault error :: more →
    Scene.parse source = .error (.lexical error)
  inRange : (∀ error, others.head? ≠ some (.fault error)) →
    -2 ^ 63 ≤ Integer.ofText numeral → Integer.ofText numeral ≤ 2 ^ 63 - 1 →
      ∃ number : Int64, number.toInt = Integer.ofText numeral ∧
        Scene.Takes source front next ⟨.literal (.integer number), place⟩ others
  outOfRange : (∀ error, others.head? ≠ some (.fault error)) →
    ¬ (-2 ^ 63 ≤ Integer.ofText numeral ∧ Integer.ofText numeral ≤ 2 ^ 63 - 1) →
      Scene.parse source = .error (.integerOutOfRange (String.ofList numeral) place)

section Behind

variable {source : String} {front : List Token} {next : Operand → Parser Scene}
  {before stretch numeral behind : List Char}

/-- A fault behind the current token is met when this one is taken. -/
theorem Parser.advance_fault {cursor : Cursor} {error : LexicalError} {more : List Item}
    (isFault : cursor.ahead.ahead = .fault error :: more) :
    advance cursor =
      .error (.lexical error) ⟨cursor.current, { cursor.ahead with ahead := more }⟩ := by
  rw [advance, TokenStream.next, isFault]

/-- Tokens behind the cut are read behind the front, unless a fault stands behind them. -/
theorem CutBehind.exists_reads {rest : List Char} {tokens : List Token} {others : List Item}
    (cut : CutBehind source front before rest)
    (items : itemsFrom (byteLength before) rest = tokens.map Item.token ++ others)
    (inside : ∀ error, others.head? ≠ some (.fault error)) :
    ∃ start mid last : Cursor,
      (TokenStream.ofSource source).next = (.token start.current, start.ahead) ∧
        Reads start front mid ∧ Reads mid tokens last ∧
          TokenStream.next ⟨others, (TokenStream.ofSource source).length⟩ =
            (.token last.current, last.ahead) := by
  have whole : (TokenStream.ofSource source).ahead =
      (front ++ tokens).map Item.token ++ others := by
    rw [cut.items, items, List.map_append, List.append_assoc]
  obtain ⟨start, last, starts, reads, stops⟩ := TokenStream.exists_reads whole inside
  obtain ⟨mid, inFront, inTokens⟩ := reads_append.mp reads
  exact ⟨start, mid, last, starts, inFront, inTokens, stops⟩

/-- A fault behind tokens is met when the last of these is taken. -/
theorem CutBehind.exists_fails {rest : List Char} {first : Token} {tokens : List Token}
    {error : LexicalError} {more : List Item} (cut : CutBehind source front before rest)
    (items : itemsFrom (byteLength before) rest =
      (first :: tokens).map Item.token ++ .fault error :: more) :
    ∃ start mid last stop : Cursor,
      (TokenStream.ofSource source).next = (.token start.current, start.ahead) ∧
        Reads start front mid ∧ mid.current = first ∧
          Reads mid (first :: tokens).dropLast last ∧
            Parser.advance last = .error (.lexical error) stop := by
  obtain ⟨init, number, split⟩ : ∃ init number, first :: tokens = init ++ [number] :=
    ⟨_, _, (List.dropLast_concat_getLast (List.cons_ne_nil first tokens)).symm⟩
  rw [split, List.map_append, List.append_assoc] at items
  obtain ⟨start, mid, last, starts, inFront, inInit, stops⟩ := cut.exists_reads items nofun
  obtain ⟨isLast, isAhead⟩ := Prod.mk.inj stops
  obtain rfl := Item.token.inj isLast
  have fails := Parser.advance_fault (congrArg TokenStream.ahead isAhead.symm)
  have begun : mid.current = first := by
    cases init with
    | nil =>
      cases inInit
      exact (List.cons.inj split).1.symm
    | cons token others =>
      rw [inInit.current_eq]
      exact (List.cons.inj split).1.symm
  rw [split, List.dropLast_concat]
  exact ⟨start, mid, last, _, starts, inFront, begun, inInit, fails⟩

variable (comes : ∀ cursor after, Reads cursor front after → BeginsOperand after.current.kind →
  Parser.scene cursor = (Parser.expression >>= next) after)

include comes

/-- **A fault right behind an expression is met first**, whatever the expression is. -/
theorem Scene.parse_fault_behind {rest : List Char} {tree : ExpressionTree} {error : LexicalError}
    {more : List Item} (cut : CutBehind source front before rest)
    (items : itemsFrom (byteLength before) rest =
      tree.tokens.map Item.token ++ .fault error :: more) :
    Scene.parse source = .error (.lexical error) := by
  have arrives : Parser.Arrives Parser.scene front BeginsOperand Parser.expression := ⟨next, comes⟩
  obtain ⟨first, others, isTokens, begins⟩ := tree.begins
  rw [isTokens] at items
  obtain ⟨start, mid, last, _, starts, inFront, rfl, inTree, fails⟩ := cut.exists_fails items
  have refused := Parser.expression_fault (isTokens ▸ inTree) fails
  exact Scene.parse_error_of_scene starts (arrives.error inFront begins refused)

/-- **An expression that can be read is taken**, unless a fault stands right behind it. -/
theorem Scene.takes_expression {rest : List Char} {tree : ExpressionTree} {literal : Literal}
    {others : List Item} (cut : CutBehind source front before rest)
    (items : itemsFrom (byteLength before) rest = tree.tokens.map Item.token ++ others)
    (inside : ∀ error, others.head? ≠ some (.fault error)) (found : tree.reading? = some literal) :
    Takes source front next ⟨.literal literal, tree.span⟩ others := by
  obtain ⟨start, mid, last, starts, inFront, inTree, stops⟩ := cut.exists_reads items inside
  have begun : BeginsOperand mid.current.kind := Parser.endsOperand_eq_false inTree
  have read := Parser.expression_ok_iff_reading.mpr ⟨tree, literal, found, rfl, inTree⟩
  refine ⟨start, mid, last, Cursor.ofSource_ok_iff.mpr starts, inFront, read, ?_, stops⟩
  rw [comes start mid inFront begun]
  exact Parser.bind_eq_of_ok read

/-- **An integer behind a front is answered as it is written.** -/
theorem Scene.answersInteger (cut : CutBehind source front before (stretch ++ behind))
    (writes : WritesInteger stretch numeral) (ends : EndsNumber behind) :
    AnswersInteger source front next numeral
      ⟨byteLength before, byteLength before + byteLength stretch⟩
      (itemsFrom (byteLength before + byteLength stretch) behind) := by
  obtain ⟨tree, isNumeral, place, items⟩ := writes.exists_expression ends (byteLength before)
  have arrives : Parser.Arrives Parser.scene front BeginsOperand Parser.expression := ⟨next, comes⟩
  rw [← place]
  refine ⟨fun error more isFault => ?_, fun inside low high => ?_, fun inside outside => ?_⟩
  · rw [isFault] at items
    exact parse_fault_behind comes cut items
  · obtain ⟨number, same⟩ : ∃ number : Int64, number.toInt = Integer.ofText numeral :=
      ⟨_, Int64.toInt_ofInt_of_le low (by omega)⟩
    have found : tree.reading? = some (.integer number) := by
      rw [ExpressionTree.reading?_of_numeral isNumeral, writes.read?_eq_some_iff.mpr same]
      rfl
    exact ⟨number, same, takes_expression comes cut items inside found⟩
  · obtain ⟨start, mid, last, starts, inFront, inTree, stops⟩ := cut.exists_reads items inside
    have begun : BeginsOperand mid.current.kind := Parser.endsOperand_eq_false inTree
    have missing : Integer.read? numeral = none := by
      cases found : Integer.read? numeral with
      | none => rfl
      | some number =>
        have same := writes.read?_eq_some_iff.mp found
        exact absurd ⟨same ▸ number.le_toInt, same ▸ Int.le_sub_one_of_lt number.toInt_lt⟩ outside
    have refused := Parser.expression_outOfRange isNumeral missing inTree
    exact Scene.parse_error_of_scene starts (arrives.error inFront begun refused)

/-- **A printed integer behind a front is read as that integer**, the smallest included. -/
theorem Scene.takes_print (number : Int64) :
    let printed := (Literal.integer number).print.toList
    let stop := byteLength before + byteLength printed
    CutBehind source front before (printed ++ behind) → EndsNumber behind →
    (∀ error, (itemsFrom stop behind).head? ≠ some (.fault error)) →
    Takes source front next ⟨.literal (.integer number), ⟨byteLength before, stop⟩⟩
      (itemsFrom stop behind) := by
  intro printed stop cut ends inside
  have isWritten : printed = Integer.write number := String.toList_ofList
  have writes : WritesInteger printed printed := isWritten ▸ Integer.writesInteger_write number
  have value : Integer.ofText printed = number.toInt := isWritten ▸ Integer.ofText_write number
  obtain ⟨other, same, takes⟩ := (answersInteger comes cut writes ends).inRange inside
    (value ▸ number.le_toInt) (value ▸ Int.le_sub_one_of_lt number.toInt_lt)
  rw [value, Int64.toInt_inj] at same
  exact same ▸ takes

end Behind

/-! ### Every integer -/

/-- An expression begins at a cut of a source, behind a front with the items and the expressions
that a tree has in front of it. -/
def SceneTree.BeginsAtCut (tree : SceneTree) (source : String) (part : ExpressionTree) : Prop :=
  ∃ (done : SceneTree) (front : List Token) (earlier : List ExpressionTree)
    (before rest : List Char) (others : List Item),
    done.items <+: tree.items ∧ earlier ++ [part] <+: tree.expressions ∧
      done.Front front earlier ∧ CutBehind source front before rest ∧
        itemsFrom (byteLength before) rest = part.tokens.map Item.token ++ others

/-- Each expression of a tree begins at a cut of the source that the tree derives. -/
theorem SceneTree.Derives.beginsAtCut {tree : SceneTree} {source : String} {part : ExpressionTree}
    (derives : tree.Derives source) (member : part ∈ tree.expressions) :
    tree.BeginsAtCut source part := by
  obtain ⟨done, inTree, front, earlier, behind, later, isFront, split, expressions⟩ :=
    tree.stands_expression member
  obtain ⟨first, more, isTokens, _⟩ := part.begins
  have items : (TokenStream.ofSource source).ahead =
      front.map Item.token ++ .token first :: (more ++ behind).map Item.token := by
    rw [TokenStream.tokens_ok_iff.mp derives, split, isTokens]
    simp
  obtain ⟨before, covered, rest, isText, cut⟩ := (munched_itemsFrom 0 source.toList).cut items
  have onward := cut.onward.eq_itemsFrom
  rw [Nat.zero_add] at onward
  refine ⟨done, front, earlier, before, covered ++ rest, behind.map Item.token, inTree, ⟨later, ?_⟩,
    isFront, ⟨isText, ?_⟩, ?_⟩
  · rw [expressions, List.append_assoc, List.singleton_append]
  · rw [items, onward]
  · rw [onward, isTokens]
    simp

/-- **Every source that has a front is read up to the operand behind it**, and then in one way. -/
theorem SceneTree.Front.exists_comes {done : SceneTree} {front : List Token}
    {earlier : List ExpressionTree} (isFront : done.Front front earlier)
    (inRange : ∀ part ∈ earlier, part.InRange)
    (distinct : (done.shapes.map ShapeTree.name).Nodup) :
    ∃ next : Operand → Parser Scene, ∀ {source before rest},
      CutBehind source front before rest → ∀ cursor after, Reads cursor front after →
        BeginsOperand after.current.kind →
          Parser.scene cursor = (Parser.expression >>= next) after := by
  -- the texts of tokens are numbers of the machine wherever a source has these tokens
  have readable : ∀ {source before rest}, CutBehind source front before rest →
      ∀ part ∈ earlier, part.Readable := fun cut =>
    readable_of_inRange (fun token member => cut.items ▸
      List.mem_append_left _ (List.mem_map_of_mem member)) isFront.covers.contains inRange
  by_cases all : ∀ part ∈ earlier, part.Readable
  · obtain ⟨next, comes⟩ := isFront.arrives all distinct
    exact ⟨next, fun _ => comes⟩
  · exact ⟨fun _ => Parser.scene, fun cut => absurd (readable cut) all⟩

/-- An integer that is in range is denoted as it is written. -/
theorem ExpressionTree.operand_of_numeral {tree : ExpressionTree} {numeral : List Char}
    (isNumeral : tree.numeral? = some numeral) (inRange : tree.InRange) :
    ∃ number : Int64, number.toInt = Integer.ofText numeral ∧
      tree.operand = ⟨.literal (.integer number), tree.span⟩ := by
  have isInteger : tree.integer? = some (Integer.ofText numeral) ∧
      tree.literal = .integer (Int64.ofInt (Integer.ofText numeral)) := by
    cases tree <;> cases isNumeral <;> exact ⟨rfl, rfl⟩
  obtain ⟨low, high⟩ := inRange _ isInteger.1
  refine ⟨_, Int64.toInt_ofInt_of_le low (by omega), ?_⟩
  rw [operand, isInteger.2]

/-- **Integers are read exactly.** Behind each front of a scene whose integers have 64 bits and that
defines no shape twice, every integer is answered as it is written; what is printed for an integer
of 64 bits is read as that very integer.

In a source with a scene, each expression begins behind such a front, and each integer among them is
the one that its numeral denotes. -/
theorem Scene.parse_integers :
    (∀ {done : SceneTree} {front : List Token} {earlier : List ExpressionTree},
      done.Front front earlier → (∀ part ∈ earlier, part.InRange) →
      (done.shapes.map ShapeTree.name).Nodup →
      ∃ next : Operand → Parser Scene,
        (∀ {source : String} {before stretch behind numeral : List Char},
          CutBehind source front before (stretch ++ behind) → WritesInteger stretch numeral →
          EndsNumber behind →
          AnswersInteger source front next numeral
            ⟨byteLength before, byteLength before + byteLength stretch⟩
            (itemsFrom (byteLength before + byteLength stretch) behind)) ∧
        ∀ {source : String} {before behind : List Char} (number : Int64),
          let printed := (Literal.integer number).print.toList
          let stop := byteLength before + byteLength printed
          CutBehind source front before (printed ++ behind) → EndsNumber behind →
          (∀ error, (itemsFrom stop behind).head? ≠ some (.fault error)) →
          Scene.Takes source front next ⟨.literal (.integer number), ⟨byteLength before, stop⟩⟩
            (itemsFrom stop behind)) ∧
    ∀ {source : String} {scene : Scene}, Scene.parse source = .ok scene →
      ∃ tree : SceneTree, tree.Derives source ∧ tree.Denotes scene ∧
        ∀ part ∈ tree.expressions,
          tree.BeginsAtCut source part ∧
            ∀ numeral, part.numeral? = some numeral → ∃ number : Int64,
              number.toInt = Integer.ofText numeral ∧
                part.operand = ⟨.literal (.integer number), part.span⟩ := by
  refine ⟨fun {done front earlier} isFront inRange distinct => ?_, fun {source scene} parsed => ?_⟩
  · obtain ⟨next, comes⟩ := isFront.exists_comes inRange distinct
    exact ⟨next, fun cut => answersInteger (comes cut) cut,
      fun number cut => takes_print (comes cut) number cut⟩
  · obtain ⟨_, declared, made⟩ := Scene.parse_ok_iff.mp parsed
    obtain ⟨tree, derives, inRange, distinct, rfl⟩ := Scene.declarations_ok_iff.mp declared
    refine ⟨tree, derives, (SceneTree.ofDeclarations_ok_iff distinct).mp made, ?_⟩
    intro part member
    exact ⟨derives.beginsAtCut member, fun numeral isNumeral =>
      part.operand_of_numeral isNumeral (inRange part member)⟩

/-- The smallest integer, with a comment behind its sign and a leading zero, and as it is printed;
the integer above the greatest one, and the same in front of a fault. -/
theorem Scene.parse_integers_smallest :
    let front : List Token := [⟨.keyword .draw, ⟨0, 4⟩⟩, ⟨.identifier "a", ⟨5, 6⟩⟩,
      ⟨.keyword .position, ⟨7, 9⟩⟩, ⟨.mark .leftParen, ⟨9, 10⟩⟩]
    let behind := ",);shape a\x7bpencil red;axiom\x7b\x7d\x7d"
    let spaced := "draw a at(-// low\n09223372036854775808" ++ behind
    let printed := "draw a at(-9223372036854775808" ++ behind
    (∃ next,
      Takes spaced front next ⟨.literal (.integer Int64.minValue), ⟨10, 38⟩⟩
          (itemsFrom 38 behind.toList) ∧
        Takes printed front next ⟨.literal (.integer Int64.minValue), ⟨10, 30⟩⟩
          (itemsFrom 30 behind.toList)) ∧
      (∃ tree : SceneTree, tree.Derives spaced ∧ ∀ part ∈ tree.expressions, ∀ numeral,
        part.numeral? = some numeral → ∃ number : Int64, number.toInt = Integer.ofText numeral ∧
          part.operand = ⟨.literal (.integer number), part.span⟩) ∧
      Scene.parse "draw a at(9223372036854775808)" =
        .error (.integerOutOfRange "9223372036854775808" ⟨10, 29⟩) ∧
      Scene.parse "draw a at(9223372036854775808@" = .error (.lexical ⟨"@", ⟨29, 30⟩⟩) := by
  intro front behind spaced printed
  have isFront : (SceneTree.mk []).Front front [] :=
    .item (.inr (.target ⟨0, 4⟩ "a" ⟨5, 6⟩ ⟨7, 9⟩ (.first ⟨9, 10⟩)))
  obtain ⟨next, answers, prints⟩ := Scene.parse_integers.1 isFront nofun List.nodup_nil
  have integer : ∀ {digits : List Char}, digits ≠ [] → digits.all Char.isDigit = true →
      digits ∈ Pattern.integer.language := fun nonempty each =>
    Pattern.mem_integer.mpr ⟨nonempty, List.all_eq_true.mp each⟩
  have low : "09223372036854775808".toList ∈ Pattern.integer.language :=
    integer (by decide) (by decide)
  have high : "9223372036854775808".toList ∈ Pattern.integer.language :=
    integer (by decide) (by decide)
  have gap : Spacing "// low\n".toList :=
    .comment (Pattern.mem_comment.mpr ⟨" low".toList, List.all_eq_true.mp (by decide), rfl⟩) .done
  have cutSpaced : CutBehind spaced front "draw a at(".toList
      (('-' :: ("// low\n".toList ++ "09223372036854775808".toList)) ++ behind.toList) := by
    constructor <;> simp only [spaced, behind, front] <;> decide +kernel
  have cutPrinted : CutBehind printed front "draw a at(".toList
      ((Literal.integer Int64.minValue).print.toList ++ behind.toList) := by
    constructor <;> simp only [printed, behind, front] <;> decide +kernel
  have cutHigh : CutBehind "draw a at(9223372036854775808)" front "draw a at(".toList
      ("9223372036854775808".toList ++ [')']) := by
    constructor <;> decide +kernel
  have cutFault : CutBehind "draw a at(9223372036854775808@" front "draw a at(".toList
      ("9223372036854775808".toList ++ ['@']) := by
    constructor <;> decide +kernel
  have isBehind : behind.toList = ',' :: behind.toList.tail := by
    simp only [behind]
    decide +kernel
  have ends : EndsNumber behind.toList := isBehind ▸ endsNumber_cons rfl (by decide) _
  have comma : ∀ stop error, (itemsFrom stop behind.toList).head? ≠ some (.fault error) := by
    intro stop error
    rw [isBehind, itemsFrom_cons]
    exact nofun
  have isScene : (Scene.parse spaced).isOk = true := by
    simp only [spaced, behind]
    decide +kernel
  refine ⟨⟨next, ?_, prints Int64.minValue cutPrinted ends (comma _)⟩, ?_, ?_, ?_⟩
  · obtain ⟨number, same, takes⟩ := (answers cutSpaced (.negative gap low) ends).inRange
      (comma _) (by decide) (by decide)
    have isSmallest : number = Int64.minValue := by
      rw [← Int64.toInt_inj, same]
      decide
    exact isSmallest ▸ takes
  · cases parsed : Scene.parse spaced with
    | error error =>
      rw [parsed] at isScene
      cases isScene
    | ok scene =>
      obtain ⟨tree, derives, _, each⟩ := Scene.parse_integers.2 parsed
      exact ⟨tree, derives, fun part member => (each part member).2⟩
  · have answer := answers cutHigh (.positive high) (endsNumber_cons rfl (by decide) [])
    refine answer.outOfRange (fun error => ?_) (by decide)
    rw [itemsFrom_cons]
    exact nofun
  · have answer := answers cutFault (.positive high) (endsNumber_cons rfl (by decide) [])
    exact answer.fault _ [] (by decide +kernel)

end TurtleScene
