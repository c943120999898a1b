import Mathlib
import SqlPreview.Proofs.Expr.Calls
import SqlPreview.Proofs.Expr.Offsets

/-!
# Reading makes progress

Every call of the parser comes to an end, because a call either goes on to a lower function of the
grammar or has tokens behind it. One that succeeds has taken tokens and has put the counter back;
one that fails may leave it higher, but never more than one above the limit.

This file defines:
1. how many calls deep a call goes at most (`Call.bound`);
2. what it means for the end of a call to be right (`Accords`), and that all calls that go at most
   so deep end like this (`Serves`);
3. what a call has taken (`Call.Takes`).

Results:
1. `Accords.bind`, `Accords.nested`: calls one after the other, and one level deeper.
2. `serves_body`: if calls that go less deep end right, so do those that make them.
3. `serves_perform`: all calls end right.
4. `items_close`, `arguments_close`: arguments end with the symbol that closes them.
5. `reading_progresses`: the loop of the lexer and all calls of the parser end and make progress.
-/

namespace SqlPreview.Parser

variable {α β : Type} {entry moved : Cursor} {room n : Nat}

open Counted Call

/-! ## Ends of calls -/

/-- The end of a call: it gives what is expected, the counter has not been higher than one above the
limit or above where it was, and if there is a value, the counter is back where it was and what is
left is the end of what there was. -/
inductive Accords (entry : Cursor) (expected : Except FormFault (α × List Lexeme)) :
    Option (Except FormFault α × Cursor) → Prop
  | intro {result : Except FormFault α} {exit : Cursor} :
      result.map (fun value => (value, exit.left)) = expected →
      exit.peak ≤ max entry.peak (max entry.depth maxNesting + 1) → entry.depth ≤ exit.depth →
      (∀ value, result = .ok value → exit.depth = entry.depth ∧ exit.left <:+ entry.left) →
      Accords entry expected (some (result, exit))

namespace Accords

variable {expected : Except FormFault (α × List Lexeme)}

theorem fault (fault : FormFault) :
    Accords (α := α) entry (.error fault) (some (.error fault, entry)) :=
  .intro rfl (Nat.le_max_left _ _) (Nat.le_refl _) nofun

theorem pure (value : α) :
    Accords entry (.ok (value, entry.left)) ((Pure.pure value : Counted α) entry) :=
  .intro rfl (Nat.le_max_left _ _) (Nat.le_refl _) fun _ _ => ⟨rfl, List.suffix_rfl⟩

/-- Calls one after the other. The second begins where the first has ended. -/
theorem bind {first : Counted α} {next : α → Counted β}
    {more : α × List Lexeme → Except FormFault (β × List Lexeme)}
    (front : Accords entry expected (first entry))
    (behind : ∀ value moved, expected = .ok (value, moved.left) → moved.depth = entry.depth →
      moved.left <:+ entry.left → Accords moved (more (value, moved.left)) (next value moved)) :
    Accords entry (expected >>= more) ((first >>= next) entry) := by
  simp only [Bind.bind]
  generalize first entry = outcome at front
  cases front with
  | @intro result moved same peak depth kept =>
    cases result with
    | error fault =>
      subst same
      exact .intro rfl peak depth nofun
    | ok value =>
      subst same
      obtain ⟨level, left⟩ := kept value rfl
      have second := behind value moved rfl level left
      show Accords entry (more (value, moved.left)) (next value moved)
      generalize next value moved = outcome at second ⊢
      cases second with
      | @intro result exit same' peak' depth' kept' =>
        refine .intro same' ?_ (level ▸ depth') fun value found => ?_
        · rw [level] at peak'
          exact peak'.trans (max_le peak (le_max_right _ _))
        · obtain ⟨level', left'⟩ := kept' value found
          exact ⟨level'.trans level, left'.trans left⟩

/-- Another value in place of the one that a call gives. -/
theorem map {first : Counted α} {f : α → β} (front : Accords entry expected (first entry)) :
    Accords entry (expected.map (Prod.map f id))
      ((first >>= fun value => Pure.pure (f value)) entry) := by
  have same : expected.map (Prod.map f id) =
      expected >>= fun pair => .ok (f pair.1, pair.2) := by
    cases expected <;> rfl
  rw [same]
  exact front.bind fun value moved _ _ _ => .pure (f value)

/-- A value or a fault without a move. -/
theorem ending (result : Except FormFault α) :
    Accords entry (result.map fun value => (value, entry.left)) (some (result, entry)) :=
  .intro rfl (Nat.le_max_left _ _) (Nat.le_refl _) fun _ _ => ⟨rfl, List.suffix_rfl⟩

theorem taking {read : Reader α}
    (ends : ∀ taken, read entry.left = .ok taken → taken.rest <:+ entry.left) :
    Accords entry (plain (read entry.left)) (taking read entry) := by
  unfold Counted.taking
  cases found : read entry.left with
  | error fault' => exact fault fault'
  | ok taken =>
    exact .intro rfl (Nat.le_max_left _ _) (Nat.le_refl _) fun _ _ => ⟨rfl, ends taken found⟩

/-- A call behind tokens that have been taken before. -/
theorem behind {rest : List Lexeme} {outcome : Option (Except FormFault α × Cursor)}
    (ends : rest <:+ entry.left) (accords : Accords (entry.moved rest) expected outcome) :
    Accords entry expected outcome := by
  cases accords with
  | intro same peak depth kept =>
    exact .intro same peak depth fun value found =>
      ⟨(kept value found).1, (kept value found).2.trans ends⟩

/-- A call one level deeper, where the limit allows for it. -/
theorem nested {inner : Counted α} (shallow : entry.depth < maxNesting)
    (accords : Accords entry.entered expected (inner entry.entered)) :
    Accords entry expected (nested inner entry) := by
  unfold Counted.nested
  rw [if_neg (by omega)]
  generalize inner entry.entered = outcome at accords ⊢
  cases accords with
  | @intro result exit same peak depth kept =>
    refine .intro same ?_ (Nat.le_sub_one_of_lt depth) fun value found => ?_
    · simp only [Cursor.entered, Cursor.returned] at peak ⊢
      omega
    · obtain ⟨level, left⟩ := kept value found
      exact ⟨by simp only [Cursor.returned, level, Cursor.entered, Nat.add_sub_cancel], left⟩

theorem tooDeep {inner : Counted α} (deep : maxNesting ≤ entry.depth) :
    Accords entry (.error (faultAt .tooDeep entry.left)) (Counted.nested inner entry) := by
  unfold Counted.nested
  rw [if_pos (Nat.lt_succ_of_le deep)]
  refine .intro rfl ?_ (Nat.le_succ _) nofun
  simp only [Cursor.entered]
  omega

end Accords

theorem trying_some {read? : (input : List Lexeme) → Option (Taken input α)}
    {next : Option α → Counted β} {taken : Taken entry.left α}
    (found : read? entry.left = some taken) :
    (trying read? >>= next) entry = next (some taken.value) (entry.moved taken.rest) := by
  simp only [Bind.bind, trying, found]

theorem trying_none {read? : (input : List Lexeme) → Option (Taken input α)}
    {next : Option α → Counted β} (found : read? entry.left = none) :
    (trying read? >>= next) entry = next none entry := by
  simp only [Bind.bind, trying, found]

/-! ## Ends of lists -/

section

variable {input : List Lexeme}

theorem symbol?_eq {s : Symbol} {taken : Taken input Unit} (found : symbol? s input = some taken) :
    ∃ offset, input = ⟨.symbol s, offset⟩ :: taken.rest := by
  unfold symbol? at found
  split at found
  next t offset rest =>
    split at found
    next same =>
      cases found
      exact ⟨offset, by rw [same]⟩
    · cases found
  · cases found

theorem symbol?_suffix {s : Symbol} {taken : Taken input Unit}
    (found : symbol? s input = some taken) : taken.rest <:+ input := by
  obtain ⟨offset, same⟩ := symbol?_eq found
  exact ⟨[⟨.symbol s, offset⟩], same.symm⟩

theorem expect_eq {s : Symbol} {taken : Taken input Unit} (found : expect s input = .ok taken) :
    ∃ offset, input = ⟨.symbol s, offset⟩ :: taken.rest := by
  unfold expect at found
  cases here : symbol? s input with
  | none =>
    rw [here] at found
    cases found
  | some closed =>
    rw [here] at found
    cases found
    exact symbol?_eq here

theorem expect_suffix {s : Symbol} {taken : Taken input Unit} (found : expect s input = .ok taken) :
    taken.rest <:+ input := by
  obtain ⟨offset, same⟩ := expect_eq found
  exact ⟨[⟨.symbol s, offset⟩], same.symm⟩

theorem lexeme_suffix {taken : Taken input Lexeme} (found : lexeme input = .ok taken) :
    taken.rest <:+ input := by
  unfold lexeme at found
  split at found <;> cases found
  exact List.suffix_cons _ _

theorem name_suffix {taken : Taken input String} (found : name input = .ok taken) :
    taken.rest <:+ input := by
  unfold name at found
  split at found <;> cases found
  exact List.suffix_cons _ _

theorem map_suffix {value? : Option α} {first : Lexeme} {shorter : input.length < _}
    {taken : Taken (first :: input) α}
    (found : value?.map (fun value => ⟨value, input, shorter⟩) = some taken) :
    taken.rest <:+ first :: input := by
  obtain ⟨value, -, same⟩ := Option.map_eq_some_iff.1 found
  exact same ▸ List.suffix_cons first input

theorem prefixed?_suffix {taken : Taken input UnaryOp} (found : prefixed? input = some taken) :
    taken.rest <:+ input := by
  unfold prefixed? at found
  split at found
  · exact map_suffix found
  · cases found

theorem operatorOf?_suffix {least : Nat} {taken : Taken input BinaryOp}
    (found : operatorOf? least input = some taken) : taken.rest <:+ input := by
  have found := (Option.filter_eq_some_iff.1 found).1
  unfold binaryOp? at found
  split at found
  · exact map_suffix found
  · cases found
    exact (List.suffix_cons _ _).trans (List.suffix_cons _ _)
  · exact map_suffix found
  · cases found

theorem plain_shorter {taken : Except FormFault (Taken input α)} {value : α} {rest : List Lexeme}
    (found : plain taken = .ok (value, rest)) : rest.length < input.length := by
  cases taken with
  | error fault => cases found
  | ok taken =>
    cases found
    exact taken.shorter

end

/-! ## How deep calls go -/

namespace Call

/-- The place of a function in the grammar, above those that it calls on the same tokens. -/
def rank : Call → Nat
  | .primary | .applied _ | .operators _ _ => 0
  | .operand => 1
  | .unary => 2
  | .binary _ => 3
  | .conditional => 4
  | .expr => 5
  | .items _ _ => 6
  | .arguments _ => 7

/-- How many calls deep a call goes at most. -/
def bound (call : Call) (input : List Lexeme) : Nat := 8 * input.length + call.rank + 1

theorem rank_le (call : Call) : call.rank ≤ 7 := by
  cases call <;> exact Nat.le_of_ble_eq_true rfl

variable {call call' : Call} {input rest : List Lexeme} (enough : call.bound input ≤ n + 1)

include enough

theorem bound_shorter (shorter : rest.length < input.length) : call'.bound rest ≤ n := by
  have := call'.rank_le
  unfold bound at enough ⊢
  omega

theorem bound_lower (lower : call'.rank < call.rank) : call'.bound input ≤ n := by
  unfold bound at enough ⊢
  omega

end Call

/-- Calls that go at most `n` deep end right. -/
def Serves (n : Nat) (self : (call : Call) → Counted call.Result) : Prop :=
  ∀ (call : Call) (cursor : Cursor) (room : Nat), cursor.room = room → call.bound cursor.left ≤ n →
    Accords cursor (call.read room cursor.left) (self call cursor)

theorem room_of_depth (levels : entry.room = room) (same : moved.depth = entry.depth) :
    moved.room = room := by
  rw [Cursor.room, same]
  exact levels

section

variable {self : (call : Call) → Counted call.Result} (serves : Serves n self)
  (levels : entry.room = room)

include serves levels

theorem serves_below {inner : Call} (enough : inner.bound entry.left ≤ n) :
    Accords entry (below room inner entry.left) (nested (self inner) entry) := by
  cases room with
  | zero => exact .tooDeep (Nat.le_of_sub_eq_zero levels)
  | succ room =>
    have shallow : entry.depth < maxNesting := Nat.lt_of_sub_eq_succ levels
    exact .nested shallow (serves inner entry.entered room (congrArg Nat.pred levels) enough)

theorem serves_expr (enough : Call.bound .expr entry.left ≤ n + 1) :
    Accords entry (read room .expr entry.left) (body self .expr entry) := by
  rw [body, read_expr]
  exact serves_below serves levels (bound_lower enough (by decide))

theorem serves_conditional (enough : Call.bound .conditional entry.left ≤ n + 1) :
    Accords entry (read room .conditional entry.left) (body self .conditional entry) := by
  rw [body, read_conditional]
  refine (serves (.binary 1) entry room levels (bound_lower enough (by decide))).bind
    fun condition moved found level _ => ?_
  have shorter := plain_shorter found
  have levels := room_of_depth levels level
  dsimp only
  cases question : symbol? .question moved.left with
  | none =>
    rw [trying_none question]
    exact .pure condition
  | some mark =>
    rw [trying_some question]
    refine .behind (symbol?_suffix question) ?_
    have shorter := mark.shorter.trans shorter
    refine (serves .expr (moved.moved mark.rest) room levels (bound_shorter enough shorter)).bind
      fun yes moved found level _ => ?_
    have shorter := (plain_shorter found).trans shorter
    have levels := room_of_depth levels level
    refine (Accords.taking fun _ => expect_suffix).bind fun _ moved found level _ => ?_
    have shorter := (plain_shorter found).trans shorter
    have levels := room_of_depth levels level
    exact (serves .expr moved room levels (bound_shorter enough shorter)).bind
      fun no moved _ _ _ => .pure (Expr.conditional condition yes no)

theorem serves_binary {least : Nat} (enough : Call.bound (.binary least) entry.left ≤ n + 1) :
    Accords entry (read room (.binary least) entry.left) (body self (.binary least) entry) := by
  rw [body, read_binary]
  refine (serves .unary entry room levels (bound_lower enough (Nat.lt_succ_self 2))).bind
    fun left moved found level _ => ?_
  exact serves (.operators least left) moved room (room_of_depth levels level)
    (bound_shorter enough (plain_shorter found))

theorem serves_operators {least : Nat} {left : Expr}
    (enough : Call.bound (.operators least left) entry.left ≤ n + 1) :
    Accords entry (read room (.operators least left) entry.left)
      (body self (.operators least left) entry) := by
  rw [body, read_operators]
  cases here : operatorOf? least entry.left with
  | none =>
    rw [trying_none here]
    exact .pure left
  | some op =>
    rw [trying_some here]
    refine .behind (operatorOf?_suffix here) ?_
    refine (serves (.binary _) (entry.moved op.rest) room levels
      (bound_shorter enough op.shorter)).bind fun right moved found level _ => ?_
    exact serves (.operators least _) moved room (room_of_depth levels level)
      (bound_shorter enough ((plain_shorter found).trans op.shorter))

theorem serves_unary (enough : Call.bound .unary entry.left ≤ n + 1) :
    Accords entry (read room .unary entry.left) (body self .unary entry) := by
  rw [body, read_unary]
  cases here : prefixed? entry.left with
  | none =>
    rw [trying_none here]
    exact serves .operand entry room levels (bound_lower enough (by decide))
  | some op =>
    rw [trying_some here]
    refine .behind (prefixed?_suffix here) ?_
    have levels : (entry.moved op.rest).room = room := levels
    have inner : Accords _ (below room .unary op.rest) _ :=
      serves_below serves levels (bound_shorter enough op.shorter)
    exact inner.map

theorem serves_operand (enough : Call.bound .operand entry.left ≤ n + 1) :
    Accords entry (read room .operand entry.left) (body self .operand entry) := by
  rw [body, read_operand]
  refine (serves .primary entry room levels (bound_lower enough (by decide))).bind
    fun target moved found level _ => ?_
  exact serves (.applied target) moved room (room_of_depth levels level)
    (bound_shorter enough (plain_shorter found))

theorem serves_applied {target : Expr} (enough : Call.bound (.applied target) entry.left ≤ n + 1) :
    Accords entry (read room (.applied target) entry.left) (body self (.applied target) entry) := by
  rw [body, read_applied]
  cases point : symbol? .dot entry.left with
  | some dot =>
    rw [trying_some point]
    refine .behind (symbol?_suffix point) ?_
    refine (Accords.taking fun _ => name_suffix).bind fun member moved found level _ => ?_
    have shorter := (plain_shorter found).trans dot.shorter
    have levels := room_of_depth levels level
    dsimp only
    cases paren : symbol? .leftParen moved.left with
    | none =>
      rw [trying_none paren]
      exact serves (.applied _) moved room levels (bound_shorter enough shorter)
    | some opened =>
      rw [trying_some paren]
      refine .behind (symbol?_suffix paren) ?_
      have shorter := opened.shorter.trans shorter
      refine (serves (.arguments .rightParen) (moved.moved opened.rest) room levels
        (bound_shorter enough shorter)).bind fun args moved found level _ => ?_
      exact serves (.applied _) moved room (room_of_depth levels level)
        (bound_shorter enough ((plain_shorter found).trans shorter))
  | none =>
    rw [trying_none point]
    dsimp only
    cases bracket : symbol? .leftBracket entry.left with
    | none =>
      rw [trying_none bracket]
      exact .pure target
    | some opened =>
      rw [trying_some bracket]
      refine .behind (symbol?_suffix bracket) ?_
      refine (serves .expr (entry.moved opened.rest) room levels
        (bound_shorter enough opened.shorter)).bind fun position moved found level _ => ?_
      have shorter := (plain_shorter found).trans opened.shorter
      have levels := room_of_depth levels level
      refine (Accords.taking fun _ => expect_suffix).bind fun _ moved found level _ => ?_
      exact serves (.applied _) moved room (room_of_depth levels level)
        (bound_shorter enough ((plain_shorter found).trans shorter))

theorem serves_arguments {close : Symbol}
    (enough : Call.bound (.arguments close) entry.left ≤ n + 1) :
    Accords entry (read room (.arguments close) entry.left)
      (body self (.arguments close) entry) := by
  rw [body, read_arguments]
  cases here : symbol? close entry.left with
  | some closed =>
    rw [trying_some here]
    exact .behind (symbol?_suffix here) (.pure [])
  | none =>
    rw [trying_none here]
    exact serves (.items close []) entry room levels (bound_lower enough (Nat.lt_succ_self 6))

theorem serves_items {close : Symbol} {before : List Expr}
    (enough : Call.bound (.items close before) entry.left ≤ n + 1) :
    Accords entry (read room (.items close before) entry.left)
      (body self (.items close before) entry) := by
  rw [body, read_items]
  refine (serves .expr entry room levels (bound_lower enough (Nat.lt_succ_self 5))).bind
    fun item moved found level _ => ?_
  have shorter := plain_shorter found
  have levels := room_of_depth levels level
  dsimp only
  cases here : symbol? .comma moved.left with
  | some comma =>
    rw [trying_some here]
    refine .behind (symbol?_suffix here) ?_
    exact serves (.items close _) (moved.moved comma.rest) room levels
      (bound_shorter enough (comma.shorter.trans shorter))
  | none =>
    rw [trying_none here]
    exact (Accords.taking fun _ => expect_suffix).bind fun _ moved _ _ _ => .pure (before ++ [item])

theorem serves_primary (enough : Call.bound .primary entry.left ≤ n + 1) :
    Accords entry (read room .primary entry.left) (body self .primary entry) := by
  rw [body, read_primary]
  refine (Accords.taking fun _ => lexeme_suffix).bind fun first moved found level _ => ?_
  have shorter := plain_shorter found
  have levels := room_of_depth levels level
  obtain ⟨token, offset⟩ := first
  cases token with
  | symbol s =>
    cases s with
    | leftParen =>
      refine (serves .expr moved room levels (bound_shorter enough shorter)).bind
        fun inner moved _ _ _ => ?_
      exact (Accords.taking fun _ => expect_suffix).bind fun _ moved _ _ _ => .pure inner
    | leftBrace =>
      exact (serves (.arguments .rightBrace) moved room levels (bound_shorter enough shorter)).map
    | _ => exact .ending _
  | _ => exact .ending _

end

/-- If calls that go at most `n` deep end right, so do those that make them. -/
theorem serves_body {self : (call : Call) → Counted call.Result} (serves : Serves n self) :
    Serves (n + 1) (body self) := by
  intro call entry room levels enough
  cases call with
  | expr => exact serves_expr serves levels enough
  | conditional => exact serves_conditional serves levels enough
  | binary least => exact serves_binary serves levels enough
  | operators least left => exact serves_operators serves levels enough
  | unary => exact serves_unary serves levels enough
  | operand => exact serves_operand serves levels enough
  | applied target => exact serves_applied serves levels enough
  | arguments close => exact serves_arguments serves levels enough
  | items close before => exact serves_items serves levels enough
  | primary => exact serves_primary serves levels enough

theorem serves_perform (n : Nat) : Serves n (perform n) := by
  induction n with
  | zero => exact fun call entry _ _ enough => absurd enough (Nat.not_succ_le_zero _)
  | succ n ih => exact serves_body ih

/-! ## What is taken -/

section

variable {call : Call} {input rest : List Lexeme} (within : room ≤ maxNesting)

include within

theorem read_suffix {value : call.Result} (found : call.read room input = .ok (value, rest)) :
    rest <:+ input := by
  have levels : (Cursor.mk input (maxNesting - room) 0).room = room := Nat.sub_sub_self within
  have right := serves_perform _ call ⟨input, maxNesting - room, 0⟩ room levels (Nat.le_refl _)
  rw [found] at right
  generalize perform _ call _ = outcome at right
  cases right with
  | @intro result exit same _ _ kept =>
    cases result with
    | error fault => cases same
    | ok value =>
      cases same
      exact (kept value rfl).2

theorem items_close {close : Symbol} {before items : List Expr}
    (found : read room (.items close before) input = .ok (items, rest)) :
    ∃ inside offset, input = inside ++ ⟨.symbol close, offset⟩ :: rest := by
  -- Only what is left gets shorter from item to item, so the induction is on its length.
  induction size : input.length using Nat.strong_induction_on generalizing input before with
  | _ size ih =>
    subst size
    rw [read_items] at found
    cases first : read room .expr input with
    | error fault =>
      rw [first] at found
      cases found
    | ok item =>
      obtain ⟨item, behind⟩ := item
      rw [first] at found
      obtain ⟨taken, rfl⟩ := read_suffix within first
      simp only [bind, Except.bind] at found
      cases here : symbol? .comma behind with
      | some comma =>
        rw [here] at found
        obtain ⟨offset, same⟩ := symbol?_eq here
        have shorter := comma.shorter.trans (plain_shorter first)
        obtain ⟨inside, offset', closed⟩ := ih _ shorter found rfl
        refine ⟨taken ++ ⟨.symbol .comma, offset⟩ :: inside, offset', ?_⟩
        rw [List.append_assoc, List.cons_append, ← closed, ← same]
      | none =>
        rw [here] at found
        cases last : expect close behind with
        | error fault =>
          rw [last] at found
          cases found
        | ok closed =>
          rw [last] at found
          cases found
          obtain ⟨offset, same⟩ := expect_eq last
          exact ⟨taken, offset, congrArg (taken ++ ·) same⟩

theorem arguments_close {close : Symbol} {items : List Expr}
    (found : read room (.arguments close) input = .ok (items, rest)) :
    ∃ inside offset, input = inside ++ ⟨.symbol close, offset⟩ :: rest := by
  rw [read_arguments] at found
  cases here : symbol? close input with
  | none =>
    rw [here] at found
    exact items_close within found
  | some closed =>
    rw [here] at found
    cases found
    obtain ⟨offset, same⟩ := symbol?_eq here
    exact ⟨[], offset, same⟩

end

/-- What a call that succeeds has taken: at least one token, and arguments with the symbol that
closes them. The loops over operators and over what is applied may take nothing. -/
def Call.Takes : Call → List Lexeme → Prop
  | .arguments close, taken | .items close _, taken =>
    ∃ inside offset, taken = inside ++ [⟨.symbol close, offset⟩]
  | .operators _ _, _ | .applied _, _ => True
  | _, taken => taken ≠ []

theorem read_takes (within : room ≤ maxNesting) {call : Call} {value : call.Result}
    {taken rest : List Lexeme} (found : call.read room (taken ++ rest) = .ok (value, rest)) :
    call.Takes taken := by
  have closing {close : Symbol}
      (closed : ∃ inside offset, taken ++ rest = inside ++ ⟨.symbol close, offset⟩ :: rest) :
      ∃ inside offset, taken = inside ++ [⟨.symbol close, offset⟩] := by
    obtain ⟨inside, offset, same⟩ := closed
    have whole : taken ++ rest = (inside ++ [⟨.symbol close, offset⟩]) ++ rest := by
      rw [same, List.append_assoc, List.singleton_append]
    exact ⟨inside, offset, List.append_cancel_right whole⟩
  have some (shorter : rest.length < (taken ++ rest).length) : taken ≠ [] := by
    rintro rfl
    exact Nat.lt_irrefl _ shorter
  cases call with
  | arguments close => exact closing (arguments_close within found)
  | items close before => exact closing (items_close within found)
  | operators _ _ => trivial
  | applied _ => trivial
  | _ => exact some (plain_shorter found)

/-- The loop of the lexer ends, and the tokens it finds start at characters, each behind the one
before. Every call of the parser ends at any place, with what the reader of its part of the grammar
takes. One that succeeds has taken tokens off the front and has put the counter back, and no call
counts to more than one above the limit. -/
theorem reading_progresses :
    (∀ text : List Char,
      (∃ n ≤ text.length + 1,
        Lexer.Scan.next^[n] (.start text) = .ended (Lexer.lexemes 0 text)) ∧
      ∀ found, Lexer.lexemes 0 text = .ok found → Lexer.Scan.Placed text found) ∧
    ∀ (call : Call) (entry : Cursor), ∃ result exit,
      (∀ n, call.bound entry.left ≤ n → call.perform n entry = some (result, exit)) ∧
      result.map (fun value => (value, exit.left)) = call.read entry.room entry.left ∧
      (∀ value, result = .ok value → exit.depth = entry.depth ∧
        ∃ taken, entry.left = taken ++ exit.left ∧ call.Takes taken) ∧
      (entry.depth ≤ maxNesting → entry.peak ≤ maxNesting + 1 → exit.peak ≤ maxNesting + 1) := by
  refine ⟨Lexer.offsets_increase, fun call entry => ?_⟩
  have right := serves_perform _ call entry _ rfl (Nat.le_refl _)
  generalize run : perform _ call entry = outcome at right
  cases right with
  | @intro result exit same peak _ kept =>
    refine ⟨result, exit, fun n enough => perform_extends enough call entry _ run, same,
      fun value found => ?_, fun shallow low => ?_⟩
    · obtain ⟨level, taken, front⟩ := kept value found
      have read : call.read entry.room (taken ++ exit.left) = .ok (value, exit.left) := by
        rw [front, ← same, found]
        rfl
      exact ⟨level, taken, front.symm, read_takes (Nat.sub_le _ _) read⟩
    · rw [max_eq_right shallow, max_eq_right low] at peak
      exact peak

/-- A minus sign counts one level deeper than the expression that it begins. -/
example : (Call.perform 22 .expr ⟨[⟨.symbol .minus, 0⟩, ⟨.word "n", 1⟩], 0, 0⟩).map
    (fun outcome => (outcome.2.left.length, outcome.2.depth, outcome.2.peak)) =
      some (0, 0, 2) := by
  decide

end SqlPreview.Parser
