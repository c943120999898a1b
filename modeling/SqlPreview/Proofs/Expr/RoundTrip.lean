import SqlPreview.Proofs.Expr.Lexing
import SqlPreview.Proofs.Expr.Reading

/-!
# Written expressions are read back

A written expression is read at four places: as the target of a property, behind a prefix operator,
as an operand of a binary operator, and on its own. At each place the statement says what may follow
and how much room for nesting is needed; the room is at most twice the height.

Results:
1. `ReadBack`: what it means that a row of tokens is read as an expression, at every place.
2. `ReadBack.enclosed_operand`, `_unary`, `_binary`: the same for a part, which stands in
   parentheses where its place needs them.
3. `readBack_writing`: every row of tokens that writes a plain expression is read as it.
4. `Expr.read_writing`: the text of a plain expression that is not too high is read as it.
-/

namespace SqlPreview

namespace Parser

variable {e : Expr} {tokens next : List Token}

/-! ## Literals -/

theorem big?_decimalDigits {n : Int} (nonneg : 0 ≤ n) (small : n ≤ Value.maxBig) :
    (Number.Decimal.integer? (Text.decimalDigits n.toNat)).bind Value.big? = some n := by
  have low : Value.minBig ≤ n := Int.le_trans (by decide) nonneg
  rw [Number.Decimal.integer?_decimalDigits, Int.toNat_of_nonneg nonneg, Option.bind_some]
  refine if_pos ?_
  rw [Bool.and_eq_true, decide_eq_true_eq, decide_eq_true_eq]
  exact ⟨low, small⟩

section Integers

variable {digits : List Char} {n : Int}
  (read : (Number.Decimal.integer? digits).bind Value.big? = some n)

include read

theorem integerLiteral?_int (low : -0x80000000 ≤ n) (high : n < 0x80000000) :
    integerLiteral? digits none = some (.int (Int32.ofInt n)) := by
  have within : (-0x80000000 ≤ n && n < 0x80000000) = true := by
    rw [Bool.and_eq_true, decide_eq_true_eq, decide_eq_true_eq]
    exact ⟨low, high⟩
  rw [integerLiteral?, read]
  exact if_pos within

theorem integerLiteral?_long (low : -0x8000000000000000 ≤ n) (high : n < 0x8000000000000000) :
    integerLiteral? digits (some 'L') = some (.long (Int64.ofInt n)) := by
  have within : (-0x8000000000000000 ≤ n && n < 0x8000000000000000) = true := by
    rw [Bool.and_eq_true, decide_eq_true_eq, decide_eq_true_eq]
    exact ⟨low, high⟩
  rw [integerLiteral?, read]
  exact if_pos within

theorem integerLiteral?_big : integerLiteral? digits (some 'H') = some (.bigInteger n) := by
  rw [integerLiteral?, read]
  rfl

end Integers

theorem reads_literal {expr : Reader Expr} {v : Value} {t : Token} (plain : v.Plain)
    (written : v.token? = some t) (rest : List Token) :
    Reads (primary expr) (t :: rest) (.literal v) rest := by
  unfold Value.token? at written
  split at written <;> cases written
  · exact reads_word _
  · exact reads_word _
  · exact reads_word _
  next n =>
    have high := n.toInt_lt
    have read := big?_decimalDigits plain (Int.le_trans (Int.le_of_lt high) (by decide))
    refine reads_integer ?_
    rw [integerLiteral?_int read n.le_toInt high, Int32.ofInt_toInt]
  next n =>
    have high := n.toInt_lt
    have read := big?_decimalDigits plain (Int.le_trans (Int.le_of_lt high) (by decide))
    refine reads_integer ?_
    rw [integerLiteral?_long read n.le_toInt high, Int64.ofInt_toInt]
  · exact reads_integer (integerLiteral?_big (big?_decimalDigits plain.1 plain.2))
  · exact reads_string _

/-! ## What it means to be read back -/

/-- What ends an expression that stands on its own. -/
def Ends (next : List Token) : Prop := Follows 0 next ∧ Without .question next

/-- The tokens are read as an operand, with whatever is applied to it. -/
def ReadsOperand (e : Expr) (tokens : List Token) : Prop :=
  ∀ room, 2 * e.height ≤ room → ∀ next whole rest, Without .leftParen next →
    Goes (postfixes (level room).expr e) next whole rest →
    Reads (operand (level room).expr) (tokens ++ next) whole rest

/-- The tokens are read as what a prefix operator applies to. -/
def ReadsUnary (e : Expr) (tokens : List Token) : Prop :=
  ∀ room, 2 * e.height ≤ room → ∀ next bound, Follows bound next →
    Reads (level room).unary (tokens ++ next) e next

/-- The tokens are read as a left operand, with the operators that go on behind it. -/
def ReadsBinary (e : Expr) (tokens : List Token) : Prop :=
  ∀ room, 2 * e.height ≤ room → ∀ least, least ≤ e.level → ∀ next whole rest,
    Follows e.level next → Goes (binaryRest (level room).unary least e) next whole rest →
    Reads (binary (level room).unary least) (tokens ++ next) whole rest

/-- The tokens are read as an expression on its own. -/
def ReadsExpr (e : Expr) (tokens : List Token) : Prop :=
  ∀ room, 2 * e.height + 1 ≤ room → ∀ next, Ends next →
    Reads (level room).expr (tokens ++ next) e next

/-- The first token does not end a part, and only a prefix operation starts with a prefix
operator where no binary operator splits the expression. -/
def Opens (e : Expr) (tokens : List Token) : Prop :=
  ∃ t inner, tokens = t :: inner ∧ (∀ s ∈ closers, t ≠ .symbol s) ∧
    (e.level = 8 → prefixOp? t = none)

/-- The tokens are read as the expression at every place where it may stand without parentheses. -/
structure ReadBack (e : Expr) (tokens : List Token) : Prop where
  opens : Opens e tokens
  operand : e.level = 8 → ReadsOperand e tokens
  unary : 7 ≤ e.level → ReadsUnary e tokens
  binary : 1 ≤ e.level → ReadsBinary e tokens
  expr : ReadsExpr e tokens

/-! ## What may follow -/

theorem one_le_precedence (op : BinaryOp) : 1 ≤ op.precedence := by cases op <;> decide

theorem precedence_le_six (op : BinaryOp) : op.precedence ≤ 6 := by cases op <;> decide

theorem level_le (e : Expr) : e.level ≤ 8 := by
  cases e with
  | binary op left right => exact Nat.le_trans (precedence_le_six op) (by decide)
  | _ => exact Nat.le_of_ble_eq_true rfl

theorem Follows.mono {bound bound' : Nat} (follows : Follows bound next) (le : bound ≤ bound') :
    Follows bound' next := by
  cases follows with
  | done => exact .done
  | closing rest closes => exact .closing rest closes
  | operator rest spelled below => exact .operator rest spelled (Nat.le_trans below le)

/-- What follows an operand does not apply to it. -/
theorem Follows.without {bound : Nat} {s : Symbol} (follows : Follows bound next)
    (open_ : s ∉ closers) (unspelled : symbolOp? s = none) : Without s next := by
  cases follows with
  | done => rintro ⟨⟩
  | closing rest closes =>
    rintro ⟨⟩
    exact open_ closes
  | operator rest spelled below =>
    rcases spelling_forms spelled with ⟨s', rfl, found⟩ | ⟨word, rfl, _⟩ | ⟨rfl, _⟩
    · rintro ⟨⟩
      rw [unspelled] at found
      cases found
    · rintro ⟨⟩
    · rintro ⟨⟩

theorem ends_closing {s : Symbol} (closes : s ∈ closers) (other : s ≠ .question)
    (rest : List Token) : Ends (.symbol s :: rest) := by
  refine ⟨.closing rest closes, ?_⟩
  rintro ⟨⟩
  exact other rfl

/-! ## From operands to whole expressions -/

theorem reads_level_unary {room : Nat} {t : Token} {inner rest : List Token} {whole : Expr}
    (noPrefix : prefixOp? t = none)
    (front : Reads (operand (level room).expr) (t :: inner) whole rest) :
    Reads (level room).unary (t :: inner) whole rest := by
  cases room with
  | zero => exact reads_unprefixed noPrefix front
  | succ room => exact reads_unprefixed noPrefix front

theorem reads_unary_of_operand (opens : Opens e tokens) (highest : e.level = 8)
    (reads : ReadsOperand e tokens) : ReadsUnary e tokens := by
  intro room enough next bound follows
  obtain ⟨t, inner, rfl, -, noPrefix⟩ := opens
  refine reads_level_unary (noPrefix highest) (reads room enough next e next ?_ ?_)
  · exact follows.without (by decide) rfl
  · exact goes_nowhere (follows.without (by decide) rfl) (follows.without (by decide) rfl)

theorem reads_binary_of_unary (reads : ReadsUnary e tokens) : ReadsBinary e tokens := by
  intro room enough least _ next whole rest follows more
  exact reads_binary (reads room enough next e.level follows) more

theorem reads_expr_of_binary (splits : 1 ≤ e.level) (reads : ReadsBinary e tokens) :
    ReadsExpr e tokens := by
  intro room enough next ends
  cases room with
  | zero => exact absurd enough (Nat.not_succ_le_zero _)
  | succ room =>
    show Reads (Parser.conditional (level room).unary (level room).expr) _ _ _
    refine reads_unconditional ?_ ends.2
    refine reads room (Nat.le_of_succ_le_succ enough) 1 splits next e next ?_ ?_
    · exact ends.1.mono (Nat.zero_le _)
    · exact goes_no_further ends.1 Nat.zero_lt_one

theorem ReadBack.of_operand (highest : e.level = 8) (opens : Opens e tokens)
    (reads : ReadsOperand e tokens) : ReadBack e tokens := by
  have unary := reads_unary_of_operand opens highest reads
  have binary := reads_binary_of_unary unary
  have splits : 1 ≤ e.level := by
    rw [highest]
    decide
  exact ⟨opens, fun _ => reads, fun _ => unary, fun _ => binary, reads_expr_of_binary splits binary⟩

theorem ReadBack.of_unary (prefixed : e.level = 7) (opens : Opens e tokens)
    (reads : ReadsUnary e tokens) : ReadBack e tokens := by
  have binary := reads_binary_of_unary reads
  have splits : 1 ≤ e.level := by
    rw [prefixed]
    decide
  refine ⟨opens, fun highest => ?_, fun _ => reads, fun _ => binary, reads_expr_of_binary splits binary⟩
  rw [prefixed] at highest
  cases highest

theorem ReadBack.of_binary (splits : 1 ≤ e.level) (low : e.level ≤ 6) (opens : Opens e tokens)
    (reads : ReadsBinary e tokens) : ReadBack e tokens := by
  refine ⟨opens, fun highest => ?_, fun high => ?_, fun _ => reads, reads_expr_of_binary splits reads⟩
  · rw [highest] at low
    exact absurd low (by decide)
  · exact absurd (Nat.le_trans high low) (by decide)

/-! ## Parts -/

variable {room : Nat}

theorem reads_paren (reads : ReadBack e tokens) (enough : 2 * e.height + 1 ≤ room)
    (next : List Token) :
    Reads (primary (level room).expr) (.symbol .leftParen :: (tokens ++ [.symbol .rightParen]) ++ next)
      e next := by
  rw [List.cons_append, List.append_assoc]
  refine reads_enclosed ?_
  exact reads.expr room enough _ (ends_closing (by decide) (by decide) next)

theorem ReadBack.enclosed_operand (reads : ReadBack e tokens) (enough : 2 * e.height + 1 ≤ room)
    {whole : Expr} {rest : List Token} (noCall : Without .leftParen next)
    (more : Goes (postfixes (level room).expr e) next whole rest) :
    Reads (Parser.operand (level room).expr) (e.enclosed 8 tokens ++ next) whole rest := by
  unfold Expr.enclosed
  split
  · exact reads_operand (reads_paren reads enough next) more
  next high =>
    have highest : e.level = 8 := Nat.le_antisymm (level_le e) (Nat.not_lt.1 high)
    exact reads.operand highest room (Nat.le_of_succ_le enough) next whole rest noCall more

theorem ReadBack.paren_unary (reads : ReadBack e tokens) (enough : 2 * e.height + 1 ≤ room)
    {bound : Nat} (follows : Follows bound next) :
    Reads (level room).unary (.symbol .leftParen :: (tokens ++ [.symbol .rightParen]) ++ next) e
      next := by
  refine reads_level_unary rfl (reads_operand (reads_paren reads enough next) ?_)
  exact goes_nowhere (follows.without (by decide) rfl) (follows.without (by decide) rfl)

theorem ReadBack.enclosed_unary (reads : ReadBack e tokens) (enough : 2 * e.height + 1 ≤ room)
    {bound : Nat} (follows : Follows bound next) :
    Reads (level room).unary (e.enclosed 7 tokens ++ next) e next := by
  unfold Expr.enclosed
  split
  · exact reads.paren_unary enough follows
  next high =>
    exact reads.unary (Nat.not_lt.1 high) room (Nat.le_of_succ_le enough) next bound follows

theorem ReadBack.enclosed_binary (reads : ReadBack e tokens) (enough : 2 * e.height + 1 ≤ room)
    {least needed : Nat} (splits : 1 ≤ needed) (le : least ≤ needed) {whole : Expr}
    {rest : List Token} (follows : Follows needed next)
    (more : Goes (binaryRest (level room).unary least e) next whole rest) :
    Reads (Parser.binary (level room).unary least) (e.enclosed needed tokens ++ next) whole rest := by
  unfold Expr.enclosed
  split
  · exact reads_binary (reads.paren_unary enough follows) more
  next high =>
    have high := Nat.not_lt.1 high
    exact reads.binary (Nat.le_trans splits high) room (Nat.le_of_succ_le enough) least
      (Nat.le_trans le high) next whole rest (follows.mono high) more

theorem Opens.enclosed (opens : Opens e tokens) (needed : Nat) :
    ∃ t inner, e.enclosed needed tokens = t :: inner ∧ (∀ s ∈ closers, t ≠ .symbol s) ∧
      (needed = 8 → prefixOp? t = none) := by
  unfold Expr.enclosed
  split
  · refine ⟨.symbol .leftParen, _, rfl, ?_, fun _ => rfl⟩
    rintro s closes ⟨⟩
    exact absurd closes (by decide)
  next high =>
    obtain ⟨t, inner, same, noCloser, noPrefix⟩ := opens
    refine ⟨t, inner, same, noCloser, ?_⟩
    rintro rfl
    exact noPrefix (Nat.le_antisymm (level_le e) (Nat.not_lt.1 high))

/-- An expression that begins with a part opens as the part does. -/
theorem Opens.extended (opens : Opens e tokens) {needed : Nat} {whole : Expr}
    (tight : whole.level = 8 → needed = 8) (more : List Token) :
    Opens whole (e.enclosed needed tokens ++ more) := by
  obtain ⟨t, inner, same, noCloser, noPrefix⟩ := opens.enclosed needed
  exact ⟨t, _, congrArg (· ++ more) same, noCloser, fun highest => noPrefix (tight highest)⟩

/-! ## Lists -/

/-- What is asked of the arguments and the items of an expression. -/
def EachReadBack (room : Nat) (es : List Expr) : Prop :=
  ∀ e ∈ es, 2 * e.height + 1 ≤ room ∧ ∀ tokens ∈ e.writings, ReadBack e tokens

theorem eachReadBack {es : List Expr} (each : ∀ e ∈ es, ∀ tokens ∈ e.writings, ReadBack e tokens)
    (enough : 2 * Expr.listHeight es ≤ room) : EachReadBack room es := by
  intro e member
  have below := Expr.height_lt_listHeight member
  exact ⟨by omega, each e member⟩

theorem reads_moreWritings {close : Symbol} (closes : close ∈ closers) (noComma : close ≠ .comma)
    (noQuestion : close ≠ .question) {first : Expr} {es : List Expr}
    (each : EachReadBack room (first :: es)) :
    ∀ tokens ∈ Expr.listWritings (first :: es), ∀ next,
      Reads (moreArguments (level room).expr close) (tokens ++ .symbol close :: next) (first :: es)
        next := by
  induction es generalizing first with
  | nil =>
    intro tokens written next
    obtain ⟨enough, reads⟩ := each first List.mem_cons_self
    refine reads_lastArgument noComma ?_
    exact (reads tokens written).expr room enough _ (ends_closing closes noQuestion next)
  | cons second es ih =>
    intro tokens written next
    obtain ⟨⟨enough, reads⟩, others⟩ := List.forall_mem_cons.1 each
    rw [Expr.listWritings] at written
    obtain ⟨t, here, written⟩ := List.mem_flatMap.1 written
    obtain ⟨ts, there, rfl⟩ := List.mem_map.1 written
    rw [List.append_assoc, List.cons_append]
    refine reads_argument ?_ (ih others ts there next)
    exact (reads t here).expr room enough _ (ends_closing (by decide) (by decide) _)

theorem listWriting_cons {first : Expr} {es : List Expr}
    (written : tokens ∈ Expr.listWritings (first :: es)) :
    ∃ t ∈ first.writings, ∃ more, tokens = t ++ more := by
  cases es with
  | nil => exact ⟨tokens, written, [], (List.append_nil tokens).symm⟩
  | cons second es =>
    rw [Expr.listWritings] at written
    obtain ⟨t, here, written⟩ := List.mem_flatMap.1 written
    obtain ⟨ts, -, rfl⟩ := List.mem_map.1 written
    exact ⟨t, here, _, rfl⟩

theorem reads_listWriting {close : Symbol} (closes : close ∈ closers) (noComma : close ≠ .comma)
    (noQuestion : close ≠ .question) {es : List Expr} (each : EachReadBack room es) :
    ∀ tokens ∈ Expr.listWritings es, ∀ next,
      Reads (arguments (level room).expr close) (tokens ++ .symbol close :: next) es next := by
  intro tokens written next
  cases es with
  | nil =>
    rw [Expr.listWritings, List.mem_singleton] at written
    subst written
    exact reads_noArguments close
  | cons first es =>
    -- No argument starts with the closing symbol, so the list is not taken for an empty one.
    refine reads_arguments ?_ (reads_moreWritings closes noComma noQuestion each tokens written next)
    obtain ⟨t, here, more, rfl⟩ := listWriting_cons written
    obtain ⟨token, inner, rfl, noCloser, -⟩ := ((each first List.mem_cons_self).2 t here).opens
    rintro ⟨⟩
    exact noCloser close closes rfl

/-! ## Written expressions -/

theorem prefixOp?_spelled {op : UnaryOp} {sign : Token} (spelled : sign ∈ op.spellings) :
    prefixOp? sign = some op := by
  have all : ∀ sign ∈ op.spellings, prefixOp? sign = some op := by cases op <;> decide
  exact all sign spelled

theorem wordExpr_name {name : String} (free : name ∉ Expr.reserved) :
    wordExpr name = .ident name := by
  unfold wordExpr
  split
  · exact absurd (by decide) free
  · exact absurd (by decide) free
  · exact absurd (by decide) free
  · rfl

theorem prefixOp?_name {name : String} (free : name ∉ Expr.reserved) :
    prefixOp? (.word name) = none := by
  unfold prefixOp?
  split
  next same => cases same
  next same =>
    cases same
    exact absurd (by decide) free
  next same => cases same
  · rfl

theorem readBack_literal {v : Value} (plain : v.Plain) :
    ∀ tokens ∈ (Expr.literal v).writings, ReadBack (.literal v) tokens := by
  intro tokens written
  obtain ⟨t, found, rfl⟩ := List.mem_map.1 written
  have token := Option.mem_toList.1 found
  have signless : (∀ s, t ≠ .symbol s) ∧ prefixOp? t = none := by
    unfold Value.token? at token
    split at token <;> cases token <;> exact ⟨fun _ => Token.noConfusion, rfl⟩
  refine .of_operand rfl ⟨t, [], rfl, fun s _ => signless.1 s, fun _ => signless.2⟩ ?_
  intro room _ next whole rest _ more
  exact reads_operand (reads_literal plain token next) more

theorem readBack_ident {name : String} (free : name ∉ Expr.reserved) :
    ReadBack (.ident name) [.word name] := by
  refine .of_operand rfl ⟨.word name, [], rfl, ?_, fun _ => prefixOp?_name free⟩ ?_
  · rintro s _ ⟨⟩
  · intro room _ next whole rest _ more
    refine reads_operand (reads_word name) ?_
    rw [wordExpr_name free]
    exact more

section Parts

variable {target position operand left right condition yes no : Expr} {t p x l r c y n : List Token}

theorem ReadBack.member (reads : ReadBack target t) (name : String) :
    ReadBack (.member target name) (target.enclosed 8 t ++ [.symbol .dot, .word name]) := by
  refine .of_operand rfl (reads.opens.extended (fun _ => rfl) _) ?_
  intro room enough next whole rest noCall more
  rw [List.append_assoc]
  rw [Expr.height] at enough
  refine reads.enclosed_operand (by omega) ?_ (goes_member noCall more)
  rintro ⟨⟩

theorem ReadBack.index (reads : ReadBack target t) (reads' : ReadBack position p) :
    ReadBack (.index target position)
      (target.enclosed 8 t ++ .symbol .leftBracket :: (p ++ [.symbol .rightBracket])) := by
  refine .of_operand rfl (reads.opens.extended (fun _ => rfl) _) ?_
  intro room enough next whole rest _ more
  rw [List.append_assoc, List.cons_append, List.append_assoc]
  rw [Expr.height] at enough
  refine reads.enclosed_operand (by omega) ?_ (goes_index ?_ more)
  · rintro ⟨⟩
  · exact reads'.expr room (by omega) _ (ends_closing (by decide) (by decide) next)

theorem ReadBack.call (reads : ReadBack target t) {args : List Expr} {a : List Token}
    (each : ∀ e ∈ args, ∀ tokens ∈ e.writings, ReadBack e tokens)
    (written : a ∈ Expr.listWritings args) (method : String) :
    ReadBack (.call target method args)
      (target.enclosed 8 t ++
        .symbol .dot :: .word method :: .symbol .leftParen :: (a ++ [.symbol .rightParen])) := by
  refine .of_operand rfl (reads.opens.extended (fun _ => rfl) _) ?_
  intro room enough next whole rest _ more
  rw [Expr.height] at enough
  have readBack : EachReadBack room args := eachReadBack each (by omega)
  have listed : Reads (arguments (level room).expr .rightParen)
      (a ++ .symbol .rightParen :: next) args next :=
    reads_listWriting (by decide) (by decide) (by decide) readBack a written next
  simp only [List.append_assoc, List.cons_append, List.nil_append]
  refine reads.enclosed_operand (by omega) ?_ (goes_call listed more)
  rintro ⟨⟩

theorem ReadBack.list {items : List Expr} {i : List Token}
    (each : ∀ e ∈ items, ∀ tokens ∈ e.writings, ReadBack e tokens)
    (written : i ∈ Expr.listWritings items) :
    ReadBack (.list items) (.symbol .leftBrace :: (i ++ [.symbol .rightBrace])) := by
  refine .of_operand rfl ⟨.symbol .leftBrace, _, rfl, ?_, fun _ => rfl⟩ ?_
  · rintro s closes ⟨⟩
    exact absurd closes (by decide)
  · intro room enough next whole rest _ more
    rw [Expr.height] at enough
    have listed : Reads (arguments (level room).expr .rightBrace)
        (i ++ .symbol .rightBrace :: next) items next :=
      reads_listWriting (by decide) (by decide) (by decide) (eachReadBack each enough) i written next
    rw [List.cons_append, List.append_assoc]
    exact reads_operand (reads_list listed) more

theorem ReadBack.prefixed {op : UnaryOp} {sign : Token} (spelled : sign ∈ op.spellings)
    (reads : ReadBack operand x) :
    ReadBack (.unary op operand) (sign :: operand.enclosed 7 x) := by
  refine .of_unary rfl ⟨sign, _, rfl, ?_, nofun⟩ ?_
  · have noCloser : ∀ sign ∈ op.spellings, ∀ s ∈ closers, sign ≠ .symbol s := by
      cases op <;> decide
    exact noCloser sign spelled
  · intro room enough next bound follows
    rw [Expr.height] at enough
    cases room with
    | zero => exact absurd enough (by omega)
    | succ room =>
      exact reads_prefix (prefixOp?_spelled spelled) (reads.enclosed_unary (by omega) follows)

theorem ReadBack.joined {op : BinaryOp} {sign : List Token} (spelled : sign ∈ op.spellings)
    (reads : ReadBack left l) (reads' : ReadBack right r) :
    ReadBack (.binary op left right)
      (left.enclosed op.precedence l ++ (sign ++ right.enclosed (op.precedence + 1) r)) := by
  refine .of_binary (one_le_precedence op) (precedence_le_six op) ?_ ?_
  · exact reads.opens.extended (fun highest => highest) _
  · intro room enough least tight next whole rest follows more
    rw [Expr.height] at enough
    rw [List.append_assoc, List.append_assoc]
    refine reads.enclosed_binary (by omega) (one_le_precedence op) tight
      (.operator _ spelled (Nat.le_refl _)) (goes_on spelled tight ?_ more)
    -- The right operand ends where an operator of the same precedence follows.
    refine reads'.enclosed_binary (by omega) (Nat.succ_pos _) (Nat.le_refl _)
      (follows.mono (Nat.le_succ _)) ?_
    exact goes_no_further follows (Nat.lt_succ_self _)

theorem ReadBack.conditional (reads : ReadBack condition c) (reads' : ReadBack yes y)
    (reads'' : ReadBack no n) :
    ReadBack (.conditional condition yes no)
      (condition.enclosed 1 c ++ .symbol .question :: (y ++ .symbol .colon :: n)) := by
  refine ⟨?_, nofun, nofun, nofun, ?_⟩
  · refine reads.opens.extended ?_ _
    intro highest
    cases highest
  · intro room enough next ends
    rw [Expr.height] at enough
    cases room with
    | zero => exact absurd enough (Nat.not_succ_le_zero _)
    | succ room =>
      simp only [List.append_assoc, List.cons_append]
      show Reads (Parser.conditional (level room).unary (level room).expr) _ _ _
      refine reads_conditional ?_
        (reads'.expr room (by omega) _ (ends_closing (by decide) (by decide) _))
        (reads''.expr room (by omega) next ends)
      have mark (bound : Nat) : Follows bound (.symbol .question :: (y ++ .symbol .colon :: (n ++ next))) :=
        .closing _ (by decide)
      refine reads.enclosed_binary (by omega) (Nat.le_refl 1) (Nat.le_refl 1) (mark 1) ?_
      exact goes_no_further (mark 0) Nat.zero_lt_one

end Parts

/-- Every row of tokens that writes a plain expression is read as this expression, at every place
where it may stand. -/
theorem readBack_writing (e : Expr) (plain : e.Plain) : ∀ tokens ∈ e.writings, ReadBack e tokens := by
  induction e using Expr.induction with
  | literal v => exact readBack_literal plain
  | ident name =>
    intro tokens written
    rw [Expr.writings, List.mem_singleton] at written
    subst written
    exact readBack_ident plain.2
  | member target name ih =>
    intro tokens written
    obtain ⟨t, here, rfl⟩ := List.mem_map.1 written
    exact (ih plain.1 t here).member name
  | index target position ih ih' =>
    intro tokens written
    obtain ⟨t, here, written⟩ := List.mem_flatMap.1 written
    obtain ⟨p, there, rfl⟩ := List.mem_map.1 written
    exact (ih plain.1 t here).index (ih' plain.2 p there)
  | call target method args ih ih' =>
    intro tokens written
    obtain ⟨t, here, written⟩ := List.mem_flatMap.1 written
    obtain ⟨a, there, rfl⟩ := List.mem_map.1 written
    have each := (Expr.listPlain_iff args).1 plain.2.2
    exact (ih plain.1 t here).call (fun e among => ih' e among (each e among)) there method
  | unary op operand ih =>
    intro tokens written
    obtain ⟨sign, spelled, written⟩ := List.mem_flatMap.1 written
    obtain ⟨x, here, rfl⟩ := List.mem_map.1 written
    exact .prefixed spelled (ih plain x here)
  | binary op left right ih ih' =>
    intro tokens written
    obtain ⟨sign, spelled, written⟩ := List.mem_flatMap.1 written
    obtain ⟨l, here, written⟩ := List.mem_flatMap.1 written
    obtain ⟨r, there, rfl⟩ := List.mem_map.1 written
    exact .joined spelled (ih plain.1 l here) (ih' plain.2 r there)
  | conditional condition yes no ih ih' ih'' =>
    intro tokens written
    obtain ⟨c, here, written⟩ := List.mem_flatMap.1 written
    obtain ⟨y, there, written⟩ := List.mem_flatMap.1 written
    obtain ⟨n, last, rfl⟩ := List.mem_map.1 written
    exact (ih plain.1 c here).conditional (ih' plain.2.1 y there) (ih'' plain.2.2 n last)
  | list items ih =>
    intro tokens written
    obtain ⟨i, here, rfl⟩ := List.mem_map.1 written
    have each := (Expr.listPlain_iff items).1 plain
    exact .list (fun e among => ih e among (each e among)) here

end Parser

/-! ## Texts -/

/-- A plain expression whose height is at most 60 can be written, and each text that writes it is
read as it. -/
theorem Expr.read_writing (e : Expr) (plain : e.Plain) (low : e.height ≤ 60) :
    e.writings ≠ [] ∧
    ∀ tokens ∈ e.writings, Expr.read (String.ofList (Token.line tokens)) = .ok e := by
  constructor
  · obtain ⟨tokens, written⟩ := exists_writing e plain
    exact List.ne_nil_of_mem written
  · intro tokens written
    obtain ⟨found, lexed, rfl⟩ := Lexer.lexemes_line (legible_writing e plain tokens written) 0
    have enough : 2 * e.height + 1 ≤ Parser.maxNesting := by
      rw [Parser.maxNesting]
      omega
    have ends : Parser.Ends [] := ⟨.done, nofun⟩
    have reads := (Parser.readBack_writing e plain _ written).expr _ enough [] ends
    rw [List.append_nil] at reads
    rw [Expr.read, String.toList_ofList, lexed]
    simp only [Parser.ok_bind, Parser.whole_of_reads reads]

/-- Only the right operand of a subtraction, the operand of the negation, the condition and the
target of the call need parentheses. -/
theorem Expr.read_written_conditional :
    let a : Expr := .ident "a"
    let apart : Expr :=
      .unary .not (.binary .notIn a (.list [.literal (.int 3), .literal (.string "it's")]))
    let difference : Expr := .binary .sub (.binary .sub a a) (.binary .sub (.member a "a") apart)
    let e : Expr :=
      .conditional (.conditional a a a) difference (.call (.unary .negate a) "a" [a, a])
    e.Plain ∧ e.height ≤ 60 ∧
    Expr.read ("( a ? a : a ) ? a - a - ( a . a - not ( a not in \x7b 3 , 'it\\'s' \x7d ) ) " ++
      ": ( - a ) . a ( a , a )") = .ok e := by
  intro a apart difference e
  have named : IsName "a" := Lexer.isName_iff.2 (by decide)
  have plainA : a.Plain := ⟨named, by decide⟩
  have three : (0 : Int) ≤ Int32.toInt 3 := by decide
  have plainApart : apart.Plain := ⟨plainA, three, trivial, trivial⟩
  have plain : e.Plain :=
    ⟨⟨plainA, plainA, plainA⟩, ⟨⟨plainA, plainA⟩, ⟨plainA, named⟩, plainApart⟩,
      plainA, named, plainA, plainA, trivial⟩
  have low : e.height ≤ 60 := by decide
  refine ⟨plain, low, ?_⟩
  obtain ⟨-, reads⟩ := read_writing e plain low
  have written : ∃ tokens ∈ e.writings, String.ofList (Token.line tokens) =
      "( a ? a : a ) ? a - a - ( a . a - not ( a not in \x7b 3 , 'it\\'s' \x7d ) ) " ++
        ": ( - a ) . a ( a , a )" := by
    decide +kernel
  obtain ⟨tokens, member, text⟩ := written
  rw [← text]
  exact reads tokens member

end SqlPreview
