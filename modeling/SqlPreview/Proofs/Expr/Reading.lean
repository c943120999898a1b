import SqlPreview.Expr.Parser
import SqlPreview.Proofs.Expr.Writing

/-!
# What the readers take

One rule for every way in which a reader of the parser succeeds. The rules speak of rows of tokens,
because no successful reading looks at the bytes at which the tokens start.

Results:
1. `Reads`, `Goes`: what a reader takes from a row of tokens, and how reading goes on behind an
   expression.
2. One rule for each branch of the grammar, from primaries up to conditionals.
3. `whole_of_reads`: a row of tokens that is read to its end is a whole expression.
-/

namespace SqlPreview

namespace Parser

variable {α : Type} {expr deeper : Reader Expr} {tokens inner rest left : List Token}

/-- On lexemes with these tokens, the reader takes the value and leaves lexemes with the tokens
`rest`. -/
def Reads (reader : Reader α) (tokens : List Token) (value : α) (rest : List Token) : Prop :=
  ∀ input, input.map Lexeme.token = tokens →
    ∃ taken, reader input = .ok taken ∧ taken.value = value ∧ taken.rest.map Lexeme.token = rest

/-- `Reads` for what goes on behind an expression, which may take nothing. -/
def Goes (go : (input : List Lexeme) →
      Except FormFault (Expr × { rest : List Lexeme // rest.length ≤ input.length }))
    (tokens : List Token) (value : Expr) (rest : List Token) : Prop :=
  ∀ input, input.map Lexeme.token = tokens →
    ∃ result, go input = .ok result ∧ result.1 = value ∧ result.2.val.map Lexeme.token = rest

/-- A row of tokens that does not begin with a symbol. -/
def Without (s : Symbol) (tokens : List Token) : Prop := tokens.head? ≠ some (.symbol s)

theorem ok_bind {β γ : Type} (a : β) (f : β → Except FormFault γ) : (Except.ok a >>= f) = f a := rfl

/-- Lexemes whose tokens begin with `t` begin with a lexeme of it. -/
theorem lexeme_of_tokens {t : Token} {input : List Lexeme}
    (same : input.map Lexeme.token = t :: rest) :
    ∃ offset more, input = ⟨t, offset⟩ :: more ∧ more.map Lexeme.token = rest := by
  obtain ⟨⟨token, offset⟩, more, rfl, first, others⟩ := List.map_eq_cons_iff.1 same
  cases first
  exact ⟨offset, more, rfl, others⟩

/-! ## Symbols -/

theorem symbol?_hit {s : Symbol} {input : List Lexeme}
    (same : input.map Lexeme.token = .symbol s :: rest) :
    ∃ taken, symbol? s input = some taken ∧ taken.rest.map Lexeme.token = rest := by
  obtain ⟨offset, more, rfl, others⟩ := lexeme_of_tokens same
  refine ⟨⟨(), more, Nat.lt_succ_self _⟩, ?_, others⟩
  rw [symbol?, if_pos rfl]

theorem symbol?_miss {s : Symbol} {input : List Lexeme} (same : input.map Lexeme.token = tokens)
    (without : Without s tokens) : symbol? s input = none := by
  unfold symbol?
  split
  next t offset more =>
    refine if_neg ?_
    rintro rfl
    exact without (same ▸ rfl)
  · rfl

theorem reads_expect (s : Symbol) : Reads (expect s) (.symbol s :: rest) () rest := by
  intro input same
  obtain ⟨taken, found, left⟩ := symbol?_hit same
  refine ⟨taken, ?_, rfl, left⟩
  rw [expect, found]

/-! ## Primaries -/

theorem reads_word (name : String) : Reads (primary expr) (.word name :: rest) (wordExpr name) rest := by
  intro input same
  obtain ⟨offset, more, rfl, others⟩ := lexeme_of_tokens same
  exact ⟨_, rfl, rfl, others⟩

theorem reads_string (text : String) :
    Reads (primary expr) (.string text :: rest) (.literal (.string text)) rest := by
  intro input same
  obtain ⟨offset, more, rfl, others⟩ := lexeme_of_tokens same
  exact ⟨_, rfl, rfl, others⟩

theorem reads_integer {digits : List Char} {suffix : Option Char} {v : Value}
    (fits : integerLiteral? digits suffix = some v) :
    Reads (primary expr) (.integer digits suffix :: rest) (.literal v) rest := by
  intro input same
  obtain ⟨offset, more, rfl, others⟩ := lexeme_of_tokens same
  simp only [primary, fits]
  exact ⟨_, rfl, rfl, others⟩

theorem reads_enclosed {e : Expr} (within : Reads expr inner e (.symbol .rightParen :: rest)) :
    Reads (primary expr) (.symbol .leftParen :: inner) e rest := by
  intro input same
  obtain ⟨offset, more, rfl, others⟩ := lexeme_of_tokens same
  obtain ⟨taken, run, value, behind⟩ := within more others
  obtain ⟨closed, run', -, behind'⟩ := reads_expect .rightParen taken.rest behind
  simp only [primary, run, ok_bind, run']
  exact ⟨_, rfl, value, behind'⟩

theorem reads_list {items : List Expr}
    (within : Reads (arguments expr .rightBrace) inner items rest) :
    Reads (primary expr) (.symbol .leftBrace :: inner) (.list items) rest := by
  intro input same
  obtain ⟨offset, more, rfl, others⟩ := lexeme_of_tokens same
  obtain ⟨taken, run, value, behind⟩ := within more others
  simp only [primary, run, ok_bind]
  exact ⟨_, rfl, congrArg Expr.list value, behind⟩

/-! ## Arguments -/

theorem reads_lastArgument {close : Symbol} {e : Expr} (other : close ≠ .comma)
    (first : Reads expr tokens e (.symbol close :: rest)) :
    Reads (moreArguments expr close) tokens [e] rest := by
  intro input same
  obtain ⟨taken, run, value, behind⟩ := first input same
  obtain ⟨closed, run', -, behind'⟩ := reads_expect close taken.rest behind
  have noComma : symbol? .comma taken.rest = none := by
    refine symbol?_miss behind ?_
    rintro ⟨⟩
    exact other rfl
  rw [moreArguments]
  simp only [run, ok_bind, noComma, run']
  exact ⟨_, rfl, congrArg (· :: []) value, behind'⟩

theorem reads_argument {close : Symbol} {e : Expr} {es : List Expr}
    (first : Reads expr tokens e (.symbol .comma :: inner))
    (others : Reads (moreArguments expr close) inner es rest) :
    Reads (moreArguments expr close) tokens (e :: es) rest := by
  intro input same
  obtain ⟨taken, run, value, behind⟩ := first input same
  obtain ⟨comma, found, behind'⟩ := symbol?_hit behind
  obtain ⟨more, run', values, behind''⟩ := others comma.rest behind'
  rw [moreArguments]
  simp only [run, ok_bind, found, run']
  refine ⟨_, rfl, ?_, behind''⟩
  show taken.value :: more.value = e :: es
  rw [value, values]

theorem reads_noArguments (close : Symbol) :
    Reads (arguments expr close) (.symbol close :: rest) [] rest := by
  intro input same
  obtain ⟨closed, found, behind⟩ := symbol?_hit same
  simp only [arguments, found]
  exact ⟨_, rfl, rfl, behind⟩

theorem reads_arguments {close : Symbol} {es : List Expr} (without : Without close tokens)
    (more : Reads (moreArguments expr close) tokens es rest) :
    Reads (arguments expr close) tokens es rest := by
  intro input same
  obtain ⟨taken, run, values, behind⟩ := more input same
  refine ⟨taken, ?_, values, behind⟩
  rw [arguments, symbol?_miss same without]
  exact run

/-! ## Behind an operand -/

variable {target whole : Expr} {name : String}

theorem goes_nowhere (noDot : Without .dot rest) (noBracket : Without .leftBracket rest) :
    Goes (postfixes expr target) rest target rest := by
  intro input same
  rw [postfixes, symbol?_miss same noDot, symbol?_miss same noBracket]
  exact ⟨_, rfl, rfl, same⟩

theorem goes_member (noParen : Without .leftParen tokens)
    (more : Goes (postfixes expr (.member target name)) tokens whole rest) :
    Goes (postfixes expr target) (.symbol .dot :: .word name :: tokens) whole rest := by
  intro input same
  obtain ⟨dot, found, behind⟩ := symbol?_hit same
  obtain ⟨offset, after, cutting, others⟩ := lexeme_of_tokens behind
  obtain ⟨result, run, value, behind'⟩ := more after others
  have noCall := symbol?_miss others noParen
  rw [postfixes, found]
  dsimp only
  split
  next name' offset' after' cutting' =>
    rw [cutting] at cutting'
    cases cutting'
    simp only [noCall, run, ok_bind]
    exact ⟨_, rfl, value, behind'⟩
  next other =>
    exact absurd cutting (other _ _ _)

theorem goes_call {args : List Expr} (within : Reads (arguments expr .rightParen) inner args tokens)
    (more : Goes (postfixes expr (.call target name args)) tokens whole rest) :
    Goes (postfixes expr target) (.symbol .dot :: .word name :: .symbol .leftParen :: inner) whole
      rest := by
  intro input same
  obtain ⟨dot, found, behind⟩ := symbol?_hit same
  obtain ⟨offset, after, cutting, others⟩ := lexeme_of_tokens behind
  obtain ⟨opened, found', behind'⟩ := symbol?_hit others
  obtain ⟨taken, run, rfl, behind''⟩ := within opened.rest behind'
  obtain ⟨result, run', value, left⟩ := more taken.rest behind''
  rw [postfixes, found]
  dsimp only
  split
  next name' offset' after' cutting' =>
    rw [cutting] at cutting'
    cases cutting'
    simp only [found', run, ok_bind, run']
    exact ⟨_, rfl, value, left⟩
  next other =>
    exact absurd cutting (other _ _ _)

theorem goes_index {position : Expr} (within : Reads expr inner position (.symbol .rightBracket :: tokens))
    (more : Goes (postfixes expr (.index target position)) tokens whole rest) :
    Goes (postfixes expr target) (.symbol .leftBracket :: inner) whole rest := by
  intro input same
  have noDot : Without .dot (.symbol .leftBracket :: inner) := by
    rintro ⟨⟩
  obtain ⟨opened, found, behind⟩ := symbol?_hit same
  obtain ⟨taken, run, rfl, behind'⟩ := within opened.rest behind
  obtain ⟨closed, run', -, behind''⟩ := reads_expect .rightBracket taken.rest behind'
  obtain ⟨result, run'', value, left⟩ := more closed.rest behind''
  rw [postfixes, symbol?_miss same noDot]
  simp only [found, run, ok_bind, run', run'']
  exact ⟨_, rfl, value, left⟩

theorem reads_operand {first : Expr} (front : Reads (primary expr) tokens first inner)
    (more : Goes (postfixes expr first) inner whole rest) :
    Reads (operand expr) tokens whole rest := by
  intro input same
  obtain ⟨taken, run, rfl, behind⟩ := front input same
  obtain ⟨⟨result, after⟩, run', value, behind'⟩ := more taken.rest behind
  rw [operand, run]
  simp only [ok_bind, run']
  exact ⟨_, rfl, value, behind'⟩

/-! ## Prefix operators -/

theorem reads_prefix {op : UnaryOp} {sign : Token} {x : Expr} (spelled : prefixOp? sign = some op)
    (within : Reads deeper inner x rest) :
    Reads (unary expr deeper) (sign :: inner) (.unary op x) rest := by
  intro input same
  obtain ⟨offset, more, rfl, others⟩ := lexeme_of_tokens same
  obtain ⟨taken, run, rfl, behind⟩ := within more others
  simp only [unary, spelled, run, ok_bind]
  exact ⟨_, rfl, rfl, behind⟩

theorem reads_unprefixed {t : Token} (noPrefix : prefixOp? t = none)
    (front : Reads (operand expr) (t :: inner) whole rest) :
    Reads (unary expr deeper) (t :: inner) whole rest := by
  intro input same
  obtain ⟨taken, run, value, behind⟩ := front input same
  obtain ⟨offset, more, rfl, others⟩ := lexeme_of_tokens same
  refine ⟨taken, ?_, value, behind⟩
  simp only [unary, noPrefix]
  exact run

/-! ## Binary operators -/

variable {reader : Reader Expr} {least bound : Nat} {front right : Expr}

/-- The symbols that end a part of an expression. -/
def closers : List Symbol := [.rightParen, .rightBracket, .rightBrace, .comma, .colon, .question]

/-- What may stand behind an operand of an operator that binds as tightly as `bound`: nothing, a
symbol that ends a part, or an operator that does not bind more tightly. -/
inductive Follows (bound : Nat) : List Token → Prop
  | done : Follows bound []
  | closing {s : Symbol} (rest : List Token) : s ∈ closers → Follows bound (.symbol s :: rest)
  | operator {op : BinaryOp} {sign : List Token} (rest : List Token) : sign ∈ op.spellings →
      op.precedence ≤ bound → Follows bound (sign ++ rest)

/-- The three forms of a binary operator: a symbol, a word, and the two words of `not in`. -/
theorem spelling_forms {op : BinaryOp} {sign : List Token} (spelled : sign ∈ op.spellings) :
    (∃ s, sign = [.symbol s] ∧ symbolOp? s = some op) ∨
    (∃ word, sign = [.word word] ∧ wordOp? word = some op ∧ word ≠ "not") ∨
    (sign = [.word "not", .word "in"] ∧ op = .notIn) := by
  cases op <;> simp only [BinaryOp.spellings, List.mem_cons, List.not_mem_nil, or_false] at spelled
  case isIn => exact .inr (.inl ⟨_, spelled, rfl, by decide⟩)
  case notIn => exact .inr (.inr ⟨spelled, rfl⟩)
  case add | sub | mul | div | rem => exact .inl ⟨_, spelled, rfl⟩
  all_goals
    rcases spelled with symbol | word
    · exact .inl ⟨_, symbol, rfl⟩
    · exact .inr (.inl ⟨_, word, rfl, by decide⟩)

theorem binaryOp?_spelled {op : BinaryOp} {sign : List Token} (spelled : sign ∈ op.spellings)
    {input : List Lexeme} (same : input.map Lexeme.token = sign ++ rest) :
    ∃ taken, binaryOp? input = some taken ∧ taken.value = op ∧
      taken.rest.map Lexeme.token = rest := by
  rcases spelling_forms spelled with ⟨s, rfl, found⟩ | ⟨word, rfl, found, other⟩ | ⟨rfl, rfl⟩
  · obtain ⟨offset, more, rfl, others⟩ := lexeme_of_tokens same
    simp only [binaryOp?, found]
    exact ⟨_, rfl, rfl, others⟩
  · obtain ⟨offset, more, rfl, others⟩ := lexeme_of_tokens same
    rw [binaryOp?, found]
    · exact ⟨_, rfl, rfl, others⟩
    · intro _ _ _ named
      exact other named
  · obtain ⟨offset, more, rfl, others⟩ := lexeme_of_tokens same
    obtain ⟨offset', more', rfl, others'⟩ := lexeme_of_tokens others
    exact ⟨_, rfl, rfl, others'⟩

theorem binaryOp?_closing {s : Symbol} (closes : s ∈ closers) {input : List Lexeme}
    (same : input.map Lexeme.token = .symbol s :: rest) : binaryOp? input = none := by
  obtain ⟨offset, more, rfl, others⟩ := lexeme_of_tokens same
  have none : ∀ s ∈ closers, symbolOp? s = none := by decide
  rw [binaryOp?, none s closes]
  rfl

theorem reads_binary {first : Expr} (front : Reads reader tokens first inner)
    (more : Goes (binaryRest reader least first) inner whole rest) :
    Reads (binary reader least) tokens whole rest := by
  intro input same
  obtain ⟨taken, run, rfl, behind⟩ := front input same
  obtain ⟨result, run', value, behind'⟩ := more taken.rest behind
  rw [binary, run]
  simp only [ok_bind, run']
  exact ⟨_, rfl, value, behind'⟩

/-- The operators end where the next one binds less tightly than they must. -/
theorem goes_no_further (follows : Follows bound rest) (loose : bound < least) :
    Goes (binaryRest reader least target) rest target rest := by
  intro input same
  cases follows with
  | done =>
    rw [List.map_eq_nil_iff.1 same, binaryRest]
    exact ⟨_, rfl, rfl, rfl⟩
  | closing rest closes =>
    rw [binaryRest, binaryOp?_closing closes same]
    exact ⟨_, rfl, rfl, same⟩
  | operator rest spelled below =>
    obtain ⟨taken, found, rfl, _⟩ := binaryOp?_spelled spelled same
    rw [binaryRest, found]
    simp only [if_pos (Nat.lt_of_le_of_lt below loose)]
    exact ⟨_, rfl, rfl, same⟩

theorem goes_on {op : BinaryOp} {sign : List Token} (spelled : sign ∈ op.spellings)
    (tight : least ≤ op.precedence)
    (second : Reads (binary reader (op.precedence + 1)) inner right tokens)
    (more : Goes (binaryRest reader least (.binary op target right)) tokens whole rest) :
    Goes (binaryRest reader least target) (sign ++ inner) whole rest := by
  intro input same
  obtain ⟨taken, found, rfl, behind⟩ := binaryOp?_spelled spelled same
  obtain ⟨operand, run, rfl, behind'⟩ := second taken.rest behind
  obtain ⟨result, run', value, behind''⟩ := more operand.rest behind'
  rw [binaryRest, found]
  simp only [if_neg (Nat.not_lt.2 tight), run, ok_bind, run']
  exact ⟨_, rfl, value, behind''⟩

/-! ## Conditionals -/

theorem reads_unconditional (front : Reads (binary reader 1) tokens whole rest)
    (noQuestion : Without .question rest) :
    Reads (conditional reader expr) tokens whole rest := by
  intro input same
  obtain ⟨taken, run, value, behind⟩ := front input same
  rw [conditional, run]
  simp only [ok_bind, symbol?_miss behind noQuestion]
  exact ⟨_, rfl, value, behind⟩

theorem reads_conditional {condition yes no : Expr}
    (front : Reads (binary reader 1) tokens condition (.symbol .question :: inner))
    (first : Reads expr inner yes (.symbol .colon :: left)) (second : Reads expr left no rest) :
    Reads (conditional reader expr) tokens (.conditional condition yes no) rest := by
  intro input same
  obtain ⟨taken, run, rfl, behind⟩ := front input same
  obtain ⟨mark, found, behind'⟩ := symbol?_hit behind
  obtain ⟨taken', run', rfl, behind''⟩ := first mark.rest behind'
  obtain ⟨colon, found', -, others⟩ := reads_expect .colon taken'.rest behind''
  obtain ⟨taken'', run'', rfl, others'⟩ := second colon.rest others
  rw [conditional, run]
  simp only [ok_bind, found, run', found', run'']
  exact ⟨_, rfl, rfl, others'⟩

/-! ## Whole expressions -/

theorem whole_of_reads {e : Expr} {input : List Lexeme}
    (reads : Reads (level maxNesting).expr (input.map Lexeme.token) e []) :
    Parser.whole input = .ok e := by
  obtain ⟨taken, run, rfl, behind⟩ := reads input rfl
  rw [Parser.whole, run]
  simp only [ok_bind, List.map_eq_nil_iff.1 behind]
  rfl

end Parser

end SqlPreview
