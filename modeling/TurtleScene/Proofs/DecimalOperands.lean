/-
**Numbers with a fraction as operands.**

A number with a fraction is written in digits, a point and digits, of which there may be any number,
or in a minus sign and these, with spacing between the two. Where the parser comes to it, it gives
the number to which the text is rounded, with the sign bit set behind a minus sign; there is no such
text that it cannot read. What is printed for a finite number denotes a value that is rounded to it.

* `itemsFrom_decimal`, `WritesDecimal.exists_expression` — the tokens of such a number.
* `Binary64.exists_read?` — every text of such a number is read, and rounded.
* `Scene.answersDecimal`, `Scene.takes_printed` — what a source gives that has one behind a front.
* **`Scene.parse_decimals`** — every number with a fraction that the parser comes to, every one of a
  scene, and every finite number that is printed.
-/

import TurtleScene.Proofs.DecimalNotation
import TurtleScene.Proofs.IntegerOperands
import TurtleScene.Proofs.Legibility

namespace TurtleScene

open Text

/-! ### Numbers with a fraction in a text -/

/-- Digits, a point and digits are one token. -/
theorem itemsFrom_decimal {text behind : List Char} (isDecimal : text ∈ Pattern.decimal.language)
    (ends : ∀ head ∈ behind.head?, head.isDigit = false) (offset : Nat) :
    itemsFrom offset (text ++ behind) =
      .token ⟨.decimal (String.ofList text), ⟨offset, offset + byteLength text⟩⟩ ::
        itemsFrom (offset + byteLength text) behind := by
  obtain ⟨whole, fraction, ⟨nonempty, inWhole⟩, ⟨someFraction, inFraction⟩, rfl⟩ :=
    Pattern.mem_decimal.mp isDecimal
  obtain ⟨head, tail, rfl⟩ := List.exists_cons_of_ne_nil nonempty
  obtain ⟨digit, more, rfl⟩ := List.exists_cons_of_ne_nil someFraction
  obtain ⟨isDigit, inTail⟩ := List.forall_mem_cons.mp inWhole
  obtain ⟨digitBehind, inMore⟩ := List.forall_mem_cons.mp inFraction
  obtain ⟨covered, rest⟩ := digits_append inMore ends
  have noDigit : ∀ head ∈ ('.' :: digit :: (more ++ behind)).head?, head.isDigit = false := by
    rintro _ ⟨⟩
    rfl
  obtain ⟨front, point⟩ := digits_append inTail noDigit
  have lexeme : Lexeme.first head (tail ++ '.' :: digit :: (more ++ behind)) =
      ⟨.token (.decimal (String.ofList ((head :: tail) ++ '.' :: digit :: more))),
        (head :: tail) ++ '.' :: digit :: more, behind⟩ := by
    rw [Lexeme.first_of_isDigit _ isDigit]
    rcases Lexeme.number_eq head (tail ++ '.' :: digit :: (more ++ behind)) with
      ⟨_, _, isPoint, _, same⟩ | ⟨noFraction, _⟩
    · rw [point] at isPoint
      cases isPoint
      rw [same, front, covered, rest]
    · rw [noFraction digit _ point] at digitBehind
      cases digitBehind
  rw [List.append_assoc, List.cons_append, List.cons_append, List.cons_append, itemsFrom_cons,
    lexeme]
  rfl

/-- **How a number with a fraction is written**, with its sign and the text behind that. Spacing may
stand between the two. -/
inductive WritesDecimal : List Char → Bool → List Char → Prop
  | positive {text : List Char} : text ∈ Pattern.decimal.language → WritesDecimal text false text
  | negative {gap text : List Char} : Spacing gap → text ∈ Pattern.decimal.language →
    WritesDecimal ('-' :: (gap ++ text)) true text

/-- The sign and the text of a number with a fraction. -/
def ExpressionTree.decimal? : ExpressionTree → Option (Bool × List Char)
  | .decimal text _ => some (false, text.toList)
  | .negativeDecimal _ text _ => some (true, text.toList)
  | .integer _ _ | .string _ _ | .name _ _ | .negativeInteger _ _ _ => none

section Writing

variable {stretch text behind : List Char} {negative : Bool}

theorem WritesDecimal.isDecimal (writes : WritesDecimal stretch negative text) :
    text ∈ Pattern.decimal.language := by
  cases writes with
  | positive isDecimal | negative _ isDecimal => exact isDecimal

/-- The tokens of a number with a fraction in a text are those of an expression, which reaches over
all of it. -/
theorem WritesDecimal.exists_expression (writes : WritesDecimal stretch negative text)
    (ends : ∀ head ∈ behind.head?, head.isDigit = false) (offset : Nat) :
    ∃ tree : ExpressionTree, tree.decimal? = some (negative, text) ∧
      tree.span = ⟨offset, offset + byteLength stretch⟩ ∧
        itemsFrom offset (stretch ++ behind) =
          tree.tokens.map Item.token ++ itemsFrom (offset + byteLength stretch) behind := by
  cases writes with
  | positive isDecimal =>
    refine ⟨.decimal (String.ofList stretch) _, ?_, rfl, itemsFrom_decimal isDecimal ends offset⟩
    rw [ExpressionTree.decimal?, String.toList_ofList]
  | @negative gap text spacing isDecimal =>
    let start := offset + 1 + byteLength gap
    have stop : offset + byteLength ('-' :: (gap ++ text)) = start + byteLength text :=
      offset_add_signed offset gap text
    refine ⟨.negativeDecimal ⟨offset, offset + 1⟩ (String.ofList text)
      ⟨start, start + byteLength text⟩, ?_, ?_, ?_⟩
    · rw [ExpressionTree.decimal?, String.toList_ofList]
    · rw [stop]
      exact merge_sign offset _ _
    · rw [List.cons_append, List.append_assoc, itemsFrom_minus spacing,
        itemsFrom_decimal isDecimal ends, stop]
      rfl

end Writing

/-! ### Reading a number with a fraction -/

section Reading

variable {text : List Char} {value : ℚ} {number : Binary64}

/-- A rounded number has no sign. -/
theorem Binary64.Rounds.isNegative (rounds : Rounds value number) : number.isNegative = false := by
  cases rounds with
  | finite _ closest => exact closest.positive
  | infinite _ => decide

/-- With the other sign, a rounded number has the same bits and the sign bit. -/
theorem Binary64.Rounds.negate_eq (rounds : Rounds value number) :
    number.negate = number.withSign true := by
  have parts := ofParts_parts number
  rw [rounds.isNegative] at parts
  rw [← parts]
  exact negate_ofParts number.magnitude_lt

/-- **Digits with a point between them are read**, as the number to which they are rounded. -/
theorem Binary64.exists_read? (isDecimal : text ∈ Pattern.decimal.language) :
    ∃ value number, Decimal.Denotes text value ∧ Rounds value number ∧
      read? text = some number := by
  obtain ⟨value, denotes⟩ := Decimal.exists_denotes isDecimal
  obtain ⟨whole, fraction, inWhole, inFraction, form⟩ := Pattern.mem_decimal.mp isDecimal
  obtain ⟨number, found⟩ := Option.isSome_iff_exists.mp (isSome_read? inWhole inFraction)
  rw [← form] at found
  have isNumber : ofText (String.ofList text) = number := by
    refine read?_eq_some ?_
    rw [String.toList_ofList]
    exact found
  refine ⟨value, number, denotes, ?_, found⟩
  rw [denotes.eq_ofText isDecimal, ← isNumber, ofText, String.toList_ofList]
  exact rounds_nearestDecimal _

/-- A number with a fraction is read with its sign. -/
theorem ExpressionTree.reading?_of_decimal {tree : ExpressionTree} {negative : Bool}
    (isDecimal : tree.decimal? = some (negative, text)) (rounds : Binary64.Rounds value number)
    (found : Binary64.read? text = some number) :
    tree.reading? = some (.real (number.withSign negative)) := by
  cases tree <;> cases isDecimal
  · rw [reading?, found]
    rfl
  · rw [reading?, found, ← rounds.negate_eq]
    rfl

/-- What an expression denotes is what is read. -/
theorem ExpressionTree.operand_of_reading? {tree : ExpressionTree} {literal : Literal}
    (found : tree.reading? = some literal) : tree.operand = ⟨.literal literal, tree.span⟩ := by
  have readable : tree.Readable := Option.isSome_iff_exists.mpr ⟨literal, found⟩
  rw [operand, ← Option.some.inj (found.symm.trans readable.reading?_eq)]

/-- The text of a number with a fraction is digits with a point between them in every source. -/
theorem ExpressionTree.isDecimal_of_spelled {tree : ExpressionTree} {negative : Bool}
    (isDecimal : tree.decimal? = some (negative, text))
    (spelled : ∀ token ∈ tree.tokens, token.kind.Spelled) : text ∈ Pattern.decimal.language := by
  cases tree <;> cases isDecimal
  · exact Pattern.mem_decimal.mpr (spelled _ List.mem_cons_self).fraction
  · exact Pattern.mem_decimal.mpr (spelled _ (List.mem_cons_of_mem _ List.mem_cons_self)).fraction

end Reading

/-! ### Printed numbers -/

section Printed

variable {text : List Char} {value : ℚ} {number : Binary64}

/-- **What is printed for a finite number** is a text behind its sign, without zeros at the end of
its fraction, and denotes a value that is rounded to the number. -/
theorem Binary64.exists_printed (finite : number.isFinite = true) :
    ∃ text value, (Literal.real number).print.toList =
        (if number.isNegative then ['-'] else []) ++ text ∧
      Decimal.Denotes text value ∧ ('.' ∈ text → text.getLast? ≠ some '0') ∧
        ∃ rounded, Rounds value rounded ∧ number = rounded.withSign number.isNegative := by
  refine ⟨_, _, toList_print finite, Decimal.denotes_write _, Decimal.getLast?_write_ne, _,
    rounds_shortest (isFinite_iff.mp finite), ?_⟩
  rw [withSign_ofParts _ number.magnitude_lt, ofParts_parts]

/-- What is printed with a point for a finite number writes it. -/
theorem Binary64.writesDecimal_print (finite : number.isFinite = true)
    (hasPoint : '.' ∈ (Literal.real number).print.toList) :
    ∃ text value, WritesDecimal (Literal.real number).print.toList number.isNegative text ∧
      Decimal.Denotes text value ∧
        ∃ rounded, Rounds value rounded ∧ number = rounded.withSign number.isNegative := by
  obtain ⟨text, value, isPrinted, denotes, _, rounded⟩ := exists_printed finite
  refine ⟨text, value, ?_, denotes, rounded⟩
  rw [isPrinted] at hasPoint ⊢
  cases isNegative : number.isNegative with
  | false =>
    rw [isNegative] at hasPoint
    exact .positive (denotes.isDecimal hasPoint)
  | true =>
    rw [isNegative] at hasPoint
    have inText : '.' ∈ text := (List.mem_cons.mp hasPoint).resolve_left (by decide)
    exact .negative .done (denotes.isDecimal inText)

end Printed

/-! ### Behind a front -/

/-- **What a source gives that has a number with a fraction behind the tokens of `front`.** -/
structure AnswersDecimal (source : String) (front : List Token) (next : Operand → Parser Scene)
    (negative : Bool) (text : List Char) (place : Span) (others : List Item) : Prop where
  /-- A fault right behind the number is met first. -/
  fault : ∀ error more, others = .fault error :: more →
    Scene.parse source = .error (.lexical error)
  taken : (∀ error, others.head? ≠ some (.fault error)) →
    ∃ value number, Decimal.Denotes text value ∧ Binary64.Rounds value number ∧
      Scene.Takes source front next ⟨.literal (.real (number.withSign negative)), place⟩ others

section Behind

variable {source : String} {front : List Token} {next : Operand → Parser Scene}
  {before stretch behind text : List Char} {negative : Bool}
  (comes : ∀ cursor after, Reads cursor front after → BeginsOperand after.current.kind →
    Parser.scene cursor = (Parser.expression >>= next) after)

include comes

/-- **A number with a fraction behind a front is answered with the number to which it is
rounded.** -/
theorem Scene.answersDecimal (cut : CutBehind source front before (stretch ++ behind))
    (writes : WritesDecimal stretch negative text)
    (ends : ∀ head ∈ behind.head?, head.isDigit = false) :
    AnswersDecimal source front next negative text
      ⟨byteLength before, byteLength before + byteLength stretch⟩
      (itemsFrom (byteLength before + byteLength stretch) behind) := by
  obtain ⟨tree, isDecimal, place, items⟩ := writes.exists_expression ends (byteLength before)
  rw [← place]
  refine ⟨fun error more isFault => ?_, fun inside => ?_⟩
  · rw [isFault] at items
    exact parse_fault_behind comes cut items
  · obtain ⟨value, number, denotes, rounds, found⟩ := Binary64.exists_read? writes.isDecimal
    exact ⟨value, number, denotes, rounds, takes_expression comes cut items inside
      (tree.reading?_of_decimal isDecimal rounds found)⟩

/-- **A number that is printed with a point is read as that number** behind a front. -/
theorem Scene.takes_printed {number : Binary64} (finite : number.isFinite = true) :
    let printed := (Literal.real number).print.toList
    let stop := byteLength before + byteLength printed
    '.' ∈ printed → CutBehind source front before (printed ++ behind) →
    (∀ head ∈ behind.head?, head.isDigit = false) →
    (∀ error, (itemsFrom stop behind).head? ≠ some (.fault error)) →
    Takes source front next ⟨.literal (.real number), ⟨byteLength before, stop⟩⟩
      (itemsFrom stop behind) := by
  intro printed stop hasPoint cut ends inside
  obtain ⟨text, value, writes, denotes, rounded, rounds, same⟩ :=
    Binary64.writesDecimal_print finite hasPoint
  obtain ⟨other, otherRounded, otherDenotes, otherRounds, takes⟩ :=
    (answersDecimal comes cut writes ends).taken inside
  have isValue : other = value :=
    (otherDenotes.eq_ofText writes.isDecimal).trans (denotes.eq_ofText writes.isDecimal).symm
  rw [isValue] at otherRounds
  rw [otherRounds.eq rounds, ← same] at takes
  exact takes

end Behind

/-! ### Every number with a fraction -/

/-- The tokens of an expression that begins at a cut are spelled. -/
theorem SceneTree.BeginsAtCut.spelled {tree : SceneTree} {source : String} {part : ExpressionTree}
    (begins : tree.BeginsAtCut source part) : ∀ token ∈ part.tokens, token.kind.Spelled := by
  obtain ⟨_, _, _, before, rest, others, _, _, _, _, items⟩ := begins
  intro token member
  have inItems : Item.token token ∈ itemsFrom (byteLength before) rest :=
    items ▸ List.mem_append_left _ (List.mem_map_of_mem member)
  exact spelled_of_mem_itemsFrom inItems

/-- A number with a fraction is denoted with the number to which it is rounded. -/
theorem ExpressionTree.operand_of_decimal {tree : ExpressionTree} {negative : Bool}
    {text : List Char} (isDecimal : tree.decimal? = some (negative, text))
    (spelled : ∀ token ∈ tree.tokens, token.kind.Spelled) :
    ∃ value number, Decimal.Denotes text value ∧ Binary64.Rounds value number ∧
      tree.operand = ⟨.literal (.real (number.withSign negative)), tree.span⟩ := by
  obtain ⟨value, number, denotes, rounds, found⟩ :=
    Binary64.exists_read? (tree.isDecimal_of_spelled isDecimal spelled)
  exact ⟨value, number, denotes, rounds,
    tree.operand_of_reading? (tree.reading?_of_decimal isDecimal rounds found)⟩

/-- **Numbers with a fraction are rounded, and printed without loss.** Each value is rounded to one
number. Behind each front of a scene whose integers have 64 bits and that defines no shape twice,
every number with a fraction is answered with the number to which the value of its text is rounded,
its sign bit set behind a minus sign; what is printed with a point for a finite number is read as
that very number.

In a source with a scene, each expression begins behind such a front, and each number with a
fraction among them is the one to which its text is rounded. No source is refused because such a
text is malformed, however often it is read.

What is printed for a finite number is digits, or digits with a point between them, behind a minus
sign where the sign bit is set; it does not end in zeros behind a point, and its value is rounded to
the very bits of the number. -/
theorem Scene.parse_decimals :
    (∀ value : ℚ, 0 ≤ value → ∃! number, Binary64.Rounds value number) ∧
    (∀ {done : SceneTree} {front : List Token} {earlier : List ExpressionTree},
      done.Front front earlier → (∀ part ∈ earlier, part.InRange) →
      (done.shapes.map ShapeTree.name).Nodup →
      ∃ next : Operand → Parser Scene,
        (∀ {source : String} {before stretch behind text : List Char} {negative : Bool},
          CutBehind source front before (stretch ++ behind) →
          WritesDecimal stretch negative text → (∀ head ∈ behind.head?, head.isDigit = false) →
          AnswersDecimal source front next negative text
            ⟨byteLength before, byteLength before + byteLength stretch⟩
            (itemsFrom (byteLength before + byteLength stretch) behind)) ∧
        ∀ {source : String} {before behind : List Char} {number : Binary64},
          number.isFinite = true →
          let printed := (Literal.real number).print.toList
          let stop := byteLength before + byteLength printed
          '.' ∈ printed → CutBehind source front before (printed ++ behind) →
          (∀ head ∈ behind.head?, head.isDigit = false) →
          (∀ error, (itemsFrom stop behind).head? ≠ some (.fault error)) →
          Scene.Takes source front next ⟨.literal (.real number), ⟨byteLength before, stop⟩⟩
            (itemsFrom stop behind)) ∧
    (∀ {source : String} {scene : Scene}, Scene.parse source = .ok scene →
      ∃ tree : SceneTree, tree.Derives source ∧ tree.Denotes scene ∧
        ∀ part ∈ tree.expressions,
          tree.BeginsAtCut source part ∧
            ∀ negative text, part.decimal? = some (negative, text) →
              ∃ value number, Decimal.Denotes text value ∧ Binary64.Rounds value number ∧
                part.operand = ⟨.literal (.real (number.withSign negative)), part.span⟩) ∧
    (∀ (source : String) (times : Nat) (error : ParseError),
      Scene.parse source = .error error ∨ .error error ∈ Scene.parseRepeatedly times source →
      ∀ text, error.message ≠ "invalid float literal '" ++ text ++ "'") ∧
    ∀ {number : Binary64}, number.isFinite = true →
      ∃ text value, (Literal.real number).print.toList =
          (if number.isNegative then ['-'] else []) ++ text ∧
        Decimal.Denotes text value ∧ ('.' ∈ text → text.getLast? ≠ some '0') ∧
          ∃ rounded, Binary64.Rounds value rounded ∧
            number = rounded.withSign number.isNegative := by
  refine ⟨fun value nonneg => Binary64.existsUnique_rounds nonneg,
    fun isFront inRange distinct => ?_, fun {source scene} parsed => ?_,
    fun source times error refused => ?_, fun finite => Binary64.exists_printed finite⟩
  · obtain ⟨next, comes⟩ := isFront.exists_comes inRange distinct
    exact ⟨next, fun cut => answersDecimal (comes cut) cut,
      fun finite hasPoint cut => takes_printed (comes cut) finite hasPoint cut⟩
  · obtain ⟨_, declared, made⟩ := Scene.parse_ok_iff.mp parsed
    obtain ⟨tree, derives, _, distinct, rfl⟩ := Scene.declarations_ok_iff.mp declared
    refine ⟨tree, derives, (SceneTree.ofDeclarations_ok_iff distinct).mp made, ?_⟩
    intro part member
    have begins := derives.beginsAtCut member
    exact ⟨begins, fun _ _ isDecimal => part.operand_of_decimal isDecimal begins.spelled⟩
  · rcases refused with once | again
    · have accepts := accepts_parse source
      rw [once] at accepts
      exact accepts.message_ne
    · exact (accepts_parseRepeatedly times source _ again).message_ne

/-- A number half-way between two others, with a comment behind its sign, and the number that is
printed for a tenth; a fault behind a number; and the smallest number, printed behind its sign. -/
theorem Scene.parse_decimals_halfway :
    let front : List Token := [⟨.keyword .draw, ⟨0, 4⟩⟩, ⟨.identifier "a", ⟨5, 6⟩⟩,
      ⟨.keyword .position, ⟨7, 9⟩⟩, ⟨.mark .leftParen, ⟨9, 10⟩⟩]
    let behind := ",);shape a\x7bpencil red;axiom\x7b\x7d\x7d"
    let halfway := "draw a at(-// half\n9007199254740993.0" ++ behind
    let tenth := "draw a at(0.1" ++ behind
    (∃! number, Binary64.Rounds (2 ^ 53 + 1) number) ∧
      (∃ next,
        Takes halfway front next ⟨.literal (.real ⟨0xC340000000000000⟩), ⟨10, 37⟩⟩
            (itemsFrom 37 behind.toList) ∧
          Takes tenth front next ⟨.literal (.real ⟨0x3FB999999999999A⟩), ⟨10, 13⟩⟩
            (itemsFrom 13 behind.toList)) ∧
      (∃ tree : SceneTree, tree.Derives halfway ∧ ∀ part ∈ tree.expressions, ∀ negative text,
        part.decimal? = some (negative, text) → ∃ value number, Decimal.Denotes text value ∧
          Binary64.Rounds value number ∧
            part.operand = ⟨.literal (.real (number.withSign negative)), part.span⟩) ∧
      Scene.parse "draw a at(1.5@" = .error (.lexical ⟨"@", ⟨13, 14⟩⟩) ∧
      (∀ text, ParseError.message (.lexical ⟨"@", ⟨13, 14⟩⟩) ≠
        "invalid float literal '" ++ text ++ "'") ∧
      ∃ text value, (Literal.real ⟨0x8000000000000001⟩).print.toList = '-' :: text ∧
        Decimal.Denotes text value ∧ ('.' ∈ text → text.getLast? ≠ some '0') ∧
          ∃ rounded, Binary64.Rounds value rounded ∧
            ⟨0x8000000000000001⟩ = rounded.withSign true := by
  intro front behind halfway tenth
  obtain ⟨unique, answers, inScene, messages, prints⟩ := Scene.parse_decimals
  have isFront : (SceneTree.mk []).Front front [] :=
    .item (.inr (.target ⟨0, 4⟩ "a" ⟨5, 6⟩ ⟨7, 9⟩ (.first ⟨9, 10⟩)))
  obtain ⟨next, answers, reads⟩ := answers isFront nofun List.nodup_nil
  have odd : "9007199254740993.0".toList ∈ Pattern.decimal.language :=
    Pattern.mem_decimal.mpr ⟨"9007199254740993".toList, ['0'],
      ⟨by decide, List.all_eq_true.mp (by decide)⟩, ⟨by decide, List.all_eq_true.mp (by decide)⟩,
      rfl⟩
  have gap : Spacing "// half\n".toList :=
    .comment (Pattern.mem_comment.mpr ⟨" half".toList, List.all_eq_true.mp (by decide), rfl⟩) .done
  have cutHalfway : CutBehind halfway front "draw a at(".toList
      (('-' :: ("// half\n".toList ++ "9007199254740993.0".toList)) ++ behind.toList) := by
    constructor <;> simp only [halfway, behind, front] <;> decide +kernel
  have isTenth : (Literal.real ⟨0x3FB999999999999A⟩).print.toList = "0.1".toList := by
    decide +kernel
  have cutTenth : CutBehind tenth front "draw a at(".toList
      ((Literal.real ⟨0x3FB999999999999A⟩).print.toList ++ behind.toList) := by
    rw [isTenth]
    constructor <;> simp only [tenth, behind, front] <;> decide +kernel
  have cutFault : CutBehind "draw a at(1.5@" front "draw a at(".toList
      ("1.5".toList ++ ['@']) := by
    constructor <;> decide +kernel
  have isBehind : behind.toList = ',' :: behind.toList.tail := by
    simp only [behind]
    decide +kernel
  have ends : ∀ head ∈ behind.toList.head?, head.isDigit = false := by
    rw [isBehind]
    rintro _ ⟨⟩
    rfl
  have comma : ∀ stop error, (itemsFrom stop behind.toList).head? ≠ some (.fault error) := by
    intro stop error
    rw [isBehind, itemsFrom_cons]
    exact nofun
  have isScene : (Scene.parse halfway).isOk = true := by
    simp only [halfway, behind]
    decide +kernel
  have refused : Scene.parse "draw a at(1.5@" = .error (.lexical ⟨"@", ⟨13, 14⟩⟩) := by
    have writes : WritesDecimal "1.5".toList false "1.5".toList :=
      .positive (Pattern.mem_decimal.mpr ⟨['1'], ['5'],
        ⟨by decide, List.all_eq_true.mp (by decide)⟩,
        ⟨by decide, List.all_eq_true.mp (by decide)⟩, rfl⟩)
    exact (answers cutFault writes (by
      rintro _ ⟨⟩
      rfl)).fault _ [] (by decide +kernel)
  refine ⟨unique _ (by norm_num), ⟨next, ?_, ?_⟩, ?_, refused,
    messages "draw a at(1.5@" 1 _ (.inl refused), prints (by decide)⟩
  · obtain ⟨value, number, denotes, rounds, takes⟩ :=
      (answers cutHalfway (.negative gap odd) ends).taken (comma _)
    have computed := Binary64.rounds_nearestDecimal (Decimal.ofText "9007199254740993.0".toList)
    rw [← denotes.eq_ofText odd] at computed
    have isEven : number.withSign true = ⟨0xC340000000000000⟩ := by
      rw [rounds.eq computed]
      decide +kernel
    rw [isEven] at takes
    exact takes
  · have hasPoint : '.' ∈ (Literal.real ⟨0x3FB999999999999A⟩).print.toList := by
      rw [isTenth]
      decide
    have takes := reads (by decide) hasPoint cutTenth ends (comma _)
    rw [isTenth] at takes
    exact takes
  · cases parsed : Scene.parse halfway with
    | error error =>
      rw [parsed] at isScene
      cases isScene
    | ok scene =>
      obtain ⟨tree, derives, _, each⟩ := inScene parsed
      exact ⟨tree, derives, fun part member => (each part member).2⟩

end TurtleScene
