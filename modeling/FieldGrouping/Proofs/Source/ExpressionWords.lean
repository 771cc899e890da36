import FieldGrouping.Proofs.Source.Reading
import FieldGrouping.Source.Pattern

/-!
The words of expressions. Each reader of an expression gives words that it has taken, in the order
in which it took them; most other readers of this grammar give none.
-/

set_option autoImplicit false

namespace FieldGrouping.Source

mutual

/-- The names in an expression, in the order in which they are written. -/
def Expr.words : Expr → List Word
  | .name w => [w]
  | .member owner _ => owner.words
  | .call function arguments => function.words ++ argumentWords arguments
  | .subscript owner => owner.words
  | .literal _ => []
  | .starred e => e.words
  | .group e => e.words
  | .tuple items => wordsOfAll items
  | .list items => wordsOfAll items
  | .other => []

def wordsOfAll : List Expr → List Word
  | [] => []
  | e :: rest => e.words ++ wordsOfAll rest

def argumentWords : List (Passing × Expr) → List Word
  | [] => []
  | (_, e) :: rest => e.words ++ argumentWords rest

end

theorem wordsOfAll_eq (items : List Expr) : wordsOfAll items = items.flatMap Expr.words := by
  induction items with
  | nil => rfl
  | cons e rest ih => rw [wordsOfAll, ih, List.flatMap_cons]

theorem argumentWords_eq (arguments : List (Passing × Expr)) :
    argumentWords arguments = arguments.flatMap (·.2.words) := by
  induction arguments with
  | nil => rfl
  | cons argument rest ih => rw [argumentWords, ih, List.flatMap_cons]

attribute [simp] Expr.words wordsOfAll_eq argumentWords_eq

open Parse

section Parameters

variable {typing starTyping expression : Parse Unit}

theorem takes_parameter (htyping : Takes typing) (hstar : Takes starTyping)
    (hexpression : Takes expression) : Takes (parameter typing starTyping expression) := by
  unfold parameter
  refine .orElse ?_ (.orElse ?_ (.orElse ?_ ?_))
  · exact .seqRight (takes_sign _) (takes_pure _)
  · exact .skip (takes_sign _) fun _ => .skip takes_name fun _ => .skip htyping fun _ =>
      takes_pure _
  · refine .skip (takes_sign _) fun _ => .skip (spells_option takes_name).takes fun found => ?_
    cases found with
    | none => exact takes_pure _
    | some _ => exact .skip hstar fun _ => takes_pure _
  · exact .skip takes_name fun _ => .skip htyping fun _ =>
      .branch (takes_accepts (takes_sign _))
        (.skip hexpression fun _ => takes_pure _) (takes_pure _)

theorem takes_parameters (htyping : Takes typing) (hstar : Takes starTyping)
    (hexpression : Takes expression) : Takes (parameters typing starTyping expression) := by
  have hparameter := takes_parameter htyping hstar hexpression
  refine .skip (spells_option (spells_commaSeparated hparameter)).takes fun found => ?_
  cases found with
  | none => exact takes_pure _
  | some _ => exact takes_require _

end Parameters

namespace Grammar

section Step

variable {inner : Inner} (hinner : ∀ rank, Spells [] Expr.words (inner rank))

include hinner

theorem spells_bound (e : Expr) : Spells [] Expr.words (bound inner e) := by
  unfold bound
  split
  · exact .skip (takes_sign _) fun _ => .skip (hinner _).takes fun _ => .pure (by simp)
  · exact .failure

theorem spells_namedExpr : Spells [] Expr.words (namedExpr inner) :=
  .bind (hinner _) fun e => .branch (takes_atSign _)
    (spells_bound hinner e).after (.pure (by simp))

theorem spells_starNamed : Spells [] Expr.words (starNamed inner) :=
  .branch (takes_accepts (takes_sign _))
    (.bind (hinner _) fun _ => .pure (by simp)) (spells_namedExpr hinner)

theorem spells_starExpr : Spells [] Expr.words (starExpr inner) :=
  .branch (takes_accepts (takes_sign _))
    (.bind (hinner _) fun _ => .pure (by simp)) (hinner _)

theorem spells_starExprs : Spells [] Expr.words (starExprs inner) := by
  refine .bind (spells_commaSeparated (spells_starExpr hinner)) fun found => ?_
  obtain ⟨items, comma⟩ := found
  dsimp only
  split <;> exact .pure (by simp)

theorem spells_yieldExpr : Spells [] Expr.words (yieldExpr inner) :=
  .skip (takes_word _) fun _ => .branch (takes_accepts (takes_word _))
    (.skip (hinner _).takes fun _ => .pure (by simp))
      (.skip (spells_option (spells_starExprs hinner)).takes fun _ => .pure (by simp))

theorem spells_assigned : Spells [] Expr.words (assigned inner) :=
  .branch (takes_atWord _) (spells_yieldExpr hinner) (spells_starExprs hinner)

theorem spells_target : Spells [] Expr.words (target inner) :=
  .skip (takes_accepts (takes_sign _)) fun star => .bind (hinner _) fun e =>
    .skip (takes_require _) fun _ => .pure (by cases star <;> simp)

omit hinner in
theorem takes_atFor : Takes atFor :=
  .skip (takes_atWord _) fun _ => .skip (takes_atWord _) fun _ => takes_pure _

theorem takes_forClause : Takes (forClause inner) :=
  .skip (takes_accepts (takes_word _)) fun _ => .skip (takes_word _) fun _ =>
    .skip (spells_commaList (spells_target hinner)).takes fun _ => .skip (takes_word _) fun _ =>
      .skip (hinner _).takes fun _ =>
        .skip (spells_many (.seqRight (takes_word _) (hinner _).takes)).takes fun _ => takes_pure _

theorem spells_comprehension (e : Expr) : Spells [] Expr.words (comprehension inner e) :=
  .skip (takes_require _) fun _ => .skip (spells_many1 (takes_forClause hinner)).takes fun _ =>
    .pure (by simp)

omit hinner in
theorem spells_furtherItems {p : Parse Expr} (hp : Spells [] Expr.words p) :
    Spells [] (·.flatMap Expr.words) (furtherItems p) :=
  .bind (spells_many (.seqRight (takes_sign _) hp)) fun _ =>
    .skip (takes_accepts (takes_sign _)) fun _ => .pure (by simp)

theorem spells_parenthesized : Spells [] Expr.words (parenthesized inner) := by
  refine .branch (takes_accepts (takes_sign _)) (.pure (by simp)) ?_
  refine .branch (takes_atWord _) ?_ ?_
  · exact .bind (spells_yieldExpr hinner) fun _ => .skip (takes_sign _) fun _ => .pure (by simp)
  refine .bind (spells_starNamed hinner) fun first => .branch takes_atFor ?_ ?_
  · exact .bind (spells_comprehension hinner first) fun _ => .skip (takes_sign _) fun _ =>
      .pure (by simp)
  refine .branch (takes_atSign _) ?_ ?_
  · exact .bind (spells_furtherItems (spells_starNamed hinner)) fun _ =>
      .skip (takes_sign _) fun _ => .pure (by simp)
  · exact .skip (takes_require _) fun _ => .skip (takes_sign _) fun _ => .pure (by simp)

theorem spells_bracketed : Spells [] Expr.words (bracketed inner) := by
  refine .branch (takes_accepts (takes_sign _)) (.pure (by simp)) ?_
  refine .bind (spells_starNamed hinner) fun first => .branch takes_atFor ?_ ?_
  · exact .bind (spells_comprehension hinner first) fun _ => .skip (takes_sign _) fun _ =>
      .pure (by simp)
  · exact .bind (spells_furtherItems (spells_starNamed hinner)) fun _ =>
      .skip (takes_sign _) fun _ => .pure (by simp)

theorem spells_dictItem : Spells [] Expr.words (dictItem inner) :=
  .branch (takes_accepts (takes_sign _))
    (hinner _) (.skip (hinner _).takes fun _ => .skip (takes_sign _) fun _ => hinner _)

theorem spells_braced : Spells [] Expr.words (braced inner) := by
  have hend {p : Parse Expr} (hp : Spells [] Expr.words p) (e : Expr) : Spells [] Expr.words (do
      if ← atFor then
        let _ ← comprehension inner e
      else
        let _ ← furtherItems p
      sign "\x7d"
      return .other) := by
    refine .branch takes_atFor ?_ ?_
    · exact .skip (spells_comprehension hinner e).takes fun _ => .skip (takes_sign _) fun _ =>
        .pure (by simp)
    · exact .skip (spells_furtherItems hp).takes fun _ => .skip (takes_sign _) fun _ =>
        .pure (by simp)
  refine .branch (takes_accepts (takes_sign _)) (.pure (by simp)) ?_
  refine .branch (takes_atSign _) ?_ ?_
  · exact .skip (spells_commaList (spells_dictItem hinner)).takes fun _ =>
      .skip (takes_sign _) fun _ => .pure (by simp)
  -- the colon is looked for unless the first item is starred; both ways go on alike
  refine .skip (spells_starExpr hinner).takes fun first =>
    .ite (.skip (takes_pure _) fun _ => ?_) (.skip (takes_accepts (takes_sign _)) fun _ => ?_) <;>
  · refine .ite (.skip (hinner _).takes fun value => hend (spells_dictItem hinner) value) ?_
    refine .branch (takes_atSign _) ?_ ?_
    · exact .skip (spells_bound hinner first).takes fun e => hend (spells_starNamed hinner) e
    · exact .skip (takes_pure _) fun e => hend (spells_starNamed hinner) e

theorem spells_stringPiece : Spells [] Expr.words (stringPiece inner) := by
  refine .orElse (.map (takes_token fun t l h => ?_)) ?_
  · cases t <;> simp_all [Token.isInner]
  · have hfield : Takes (exactly .formatField *> starExprs inner) :=
      .seqRight (takes_exactly rfl) (spells_starExprs hinner).takes
    exact spells_format (spells_many hfield).takes (by simp)

theorem spells_strings : Spells [] Expr.words (strings inner) := by
  refine .bind (spells_many1 (spells_stringPiece hinner)) fun pieces =>
    .skip (takes_require _) fun _ => ?_
  split <;> exact .pure (by simp)

theorem spells_atom : Spells [] Expr.words (atom inner) := by
  intro tokens e rest h
  unfold atom at h
  rw [run_peek] at h
  split at h
  · exact Spells.ite (.skip (takes_word _) fun _ => .pure (by simp))
      (.bind spells_name fun _ => .pure (by simp)) h
  -- here any token is taken, but the next one is a number
  next imaginary next_eq =>
    obtain ⟨others, rfl⟩ := List.head?_eq_some_iff.1 next_eq
    obtain ⟨rfl, rfl⟩ : Expr.other = e ∧ others = rest := by
      simpa [StateT.run_bind, run_token] using h
    exact ⟨[.number imaginary], rfl, closed_singleton rfl, by simp⟩
  · exact spells_strings hinner h
  · exact spells_strings hinner h
  · exact Spells.skip (takes_sign _) (fun _ => .pure (by simp)) h
  · exact Spells.seqRight (takes_sign _) (spells_parenthesized hinner) h
  · exact Spells.seqRight (takes_sign _) (spells_bracketed hinner) h
  · exact Spells.seqRight (takes_sign _) (spells_braced hinner) h
  · exact Spells.failure h

omit hinner in
theorem takes_keywordName : Takes keywordName :=
  .skip takes_name fun _ => .skip (takes_sign _) fun _ => takes_pure _

theorem spells_argument : Spells [] (·.2.words) (argument inner) := by
  refine .branch (takes_accepts (takes_sign _))
    (.bind (hinner _) fun _ => .pure (by simp)) ?_
  refine .branch (takes_accepts (takes_sign _))
    (.bind (hinner _) fun _ => .pure (by simp)) ?_
  refine .skip (spells_option takes_keywordName).takes fun found => ?_
  cases found with
  | some w => exact .bind (hinner _) fun _ => .pure (by simp)
  | none => exact .bind (spells_namedExpr hinner) fun _ => .pure (by simp)

theorem spells_argumentsAfter (first : Passing × Expr) :
    Spells first.2.words (·.flatMap (·.2.words)) (argumentsAfter inner first) :=
  .bind (spells_many (.seqRight (takes_sign _) (spells_argument hinner))) fun _ =>
    .skip (takes_accepts (takes_sign _)) fun _ => .skip (takes_sign _) fun _ =>
      .skip (takes_require _) fun _ => .pure (by simp)

theorem spells_arguments : Spells [] (·.flatMap (·.2.words)) (arguments inner) :=
  .branch (takes_accepts (takes_sign _)) (.pure (by simp))
    (.bind (spells_argument hinner) (spells_argumentsAfter hinner))

theorem spells_callArguments : Spells [] (·.flatMap (·.2.words)) (callArguments inner) := by
  refine .branch (takes_accepts (takes_sign _)) (.pure (by simp)) ?_
  refine .bind (spells_argument hinner) fun first => .skip takes_atFor fun _ => .ite ?_ ?_
  · exact .bind (spells_comprehension hinner first.2) fun _ => .skip (takes_sign _) fun _ =>
      .pure (by simp)
  · exact spells_argumentsAfter hinner first

theorem takes_sliceTail : Takes (sliceTail inner) := by
  have hbound : Takes (option (inner .expression)) := (spells_option (hinner _)).takes
  exact .skip (takes_sign _) fun _ => .skip hbound fun _ =>
    .branch (takes_accepts (takes_sign _))
      (.skip hbound fun _ => takes_pure _) (takes_pure _)

theorem takes_subscriptItem : Takes (subscriptItem inner) := by
  refine .branch (takes_accepts (takes_sign _))
    (.skip (hinner _).takes fun _ => takes_pure _) ?_
  refine .branch (takes_atSign _) (takes_sliceTail hinner) ?_
  refine .skip (hinner _).takes fun e => .branch (takes_atSign _)
    (takes_sliceTail hinner) ?_
  exact .branch (takes_atSign _)
    (.skip (spells_bound hinner e).takes fun _ => takes_pure _) (takes_pure _)

theorem spells_trailer (e : Expr) :
    Spells e.words (fun change => (change e).words) (trailer inner) := by
  refine .branch (takes_accepts (takes_sign _))
    (.skip takes_name fun _ => .pure (by simp)) ?_
  refine .branch (takes_accepts (takes_sign _))
    (.bind (spells_callArguments hinner) fun _ => .pure (by simp)) ?_
  exact .skip (takes_sign _) fun _ =>
    .skip (spells_commaList (takes_subscriptItem hinner)).takes fun _ =>
      .skip (takes_sign _) fun _ => .pure (by simp)

/-- Each trailer adds its words to those of the expression before it. -/
theorem spells_trailers (bound : List Token) (e : Expr) :
    Spells e.words (fun trailers => (trailers.foldl (fun e change => change e) e).words)
      (manyWithin (trailer inner) bound) := by
  induction bound generalizing e with
  | nil => exact .pure (by simp)
  | cons _ bound ih =>
    refine .thread (spells_option (spells_trailer hinner e)) fun found => ?_
    cases found with
    | none => exact .pure (by simp)
    | some change => exact .thread (ih (change e)) fun _ => .pure (by simp)

theorem spells_primary : Spells [] Expr.words (primary inner) :=
  .bind (spells_atom hinner) fun e => .thread (.get fun tokens => spells_trailers hinner tokens e)
    fun _ => .pure (by simp)

theorem spells_power : Spells [] Expr.words (power inner) :=
  .skip (takes_accepts (takes_word _)) fun awaited => .bind (spells_primary hinner) fun _ =>
    .branch (takes_accepts (takes_sign _))
      (.skip (hinner _).takes fun _ => .pure (by simp)) (.pure (by cases awaited <;> simp))

theorem spells_factor : Spells [] Expr.words (factor inner) :=
  .branch (takes_accepts (takes_signOf _))
    (.skip (hinner _).takes fun _ => .pure (by simp)) (spells_power hinner)

omit hinner in
theorem spells_chain {operand : Parse Expr} {operator : Parse Unit}
    (hoperand : Spells [] Expr.words operand) (hoperator : Takes operator) :
    Spells [] Expr.words (chain operand operator) := by
  refine .bind hoperand fun e =>
    .skip (spells_many (.seqRight hoperator hoperand)).takes fun others => ?_
  split <;> exact .pure (by simp)

theorem spells_operand : Spells [] Expr.words (operand inner) :=
  spells_chain (spells_factor hinner) (takes_signOf _)

omit hinner in
theorem takes_comparisonOperator : Takes comparisonOperator :=
  .orElse (takes_signOf _) (.orElse (takes_word _)
    (.orElse (.seqRight (takes_word _) (takes_word _))
      (.skip (takes_word _) fun _ => .skip (takes_accepts (takes_word _)) fun _ => takes_pure _)))

theorem spells_inversion : Spells [] Expr.words (inversion inner) :=
  .branch (takes_accepts (takes_word _))
    (.skip (hinner _).takes fun _ => .pure (by simp))
      (spells_chain (spells_operand hinner) takes_comparisonOperator)

theorem spells_disjunction : Spells [] Expr.words (disjunction inner) :=
  spells_chain (spells_inversion hinner) (.orElse (takes_word _) (takes_word _))

theorem spells_lambda : Spells [] Expr.words (lambda inner) :=
  .skip (takes_word _) fun _ =>
    .skip (takes_parameters (takes_pure _) (takes_pure _) (.map (hinner _).takes)) fun _ =>
      .skip (takes_sign _) fun _ => .skip (hinner _).takes fun _ => .pure (by simp)

theorem spells_expression : Spells [] Expr.words (expression inner) := by
  refine .branch (takes_atWord _) (spells_lambda hinner) ?_
  refine .bind (spells_disjunction hinner) fun e => .branch (takes_accepts (takes_word _))
    ?_ (.pure (by simp))
  exact .skip (spells_disjunction hinner).takes fun _ => .skip (takes_word _) fun _ =>
    .skip (hinner _).takes fun _ => .pure (by simp)

theorem spells_step (rank : Rank) : Spells [] Expr.words (step inner rank) := by
  cases rank with
  | expression => exact spells_expression hinner
  | disjunction => exact spells_disjunction hinner
  | inversion => exact spells_inversion hinner
  | operand => exact spells_operand hinner
  | factor => exact spells_factor hinner
  | primary => exact spells_primary hinner

end Step

theorem spells_exprWithin (bound : List Token) (rank : Rank) :
    Spells [] Expr.words (exprWithin bound rank) := by
  induction bound generalizing rank with
  | nil => exact .failure
  | cons _ bound ih => exact spells_step ih rank

theorem spells_expr (rank : Rank) : Spells [] Expr.words (expr rank) :=
  .get fun tokens => spells_exprWithin tokens rank

section Pattern

theorem takes_signedNumber (imaginary : Bool) : Takes (signedNumber imaginary) :=
  .skip (takes_accepts (takes_sign _)) fun _ => takes_exactly rfl

theorem takes_numberPattern : Takes numberPattern :=
  .orElse
    (.skip (takes_signedNumber _) fun _ => .branch (takes_accepts (takes_signOf _))
      (takes_exactly rfl) (takes_pure _))
    (takes_signedNumber _)

theorem takes_literalPattern : Takes literalPattern := by
  refine .skip takes_peek fun next => ?_
  split
  · exact .map (spells_strings spells_expr).takes
  · exact .map (spells_strings spells_expr).takes
  · exact .ite (takes_word _) .failure
  · exact takes_numberPattern

theorem takes_captureEnds : Takes captureEnds :=
  .skip (takes_atSign _) fun _ => .skip (takes_atSign _) fun _ => .skip (takes_atSign _) fun _ =>
    takes_pure _

theorem takes_capture : Takes capture :=
  .skip takes_name fun _ => .skip (takes_require _) fun _ => .skip takes_captureEnds fun _ =>
    takes_require _

theorem takes_dottedName (least : Nat) : Takes (dottedName least) :=
  .skip takes_name fun _ => .skip (spells_many (.seqRight (takes_sign _) takes_name)).takes fun _ =>
    takes_require _

variable {pattern : Parse Unit} (hpattern : Takes pattern)

include hpattern

theorem takes_sequenceItem : Takes (sequenceItem pattern) :=
  .branch (takes_accepts (takes_sign _))
    (.skip takes_name fun _ => takes_pure _) (.skip hpattern fun _ => takes_pure _)

theorem takes_sequenceItems (closing : String) : Takes (sequenceItems pattern closing) :=
  .branch (takes_accepts (takes_sign _)) (takes_pure _)
    (.skip (spells_commaList (takes_sequenceItem hpattern)).takes fun _ => takes_sign _)

theorem takes_groupPattern : Takes (groupPattern pattern) :=
  .branch (takes_accepts (takes_sign _)) (takes_pure _)
    (.skip (spells_commaSeparated (takes_sequenceItem hpattern)).takes fun _ =>
      .skip (takes_require _) fun _ => takes_sign _)

theorem takes_mappingItem : Takes (mappingItem pattern) :=
  .branch (takes_accepts (takes_sign _))
    (.skip takes_capture fun _ => takes_pure _)
      (.skip (.orElse takes_literalPattern (takes_dottedName _)) fun _ =>
        .skip (takes_sign _) fun _ => .skip hpattern fun _ => takes_pure _)

theorem takes_mappingPattern : Takes (mappingPattern pattern) :=
  .branch (takes_accepts (takes_sign _)) (takes_pure _)
    (.skip (spells_commaList (takes_mappingItem hpattern)).takes fun _ =>
      .skip (takes_require _) fun _ => takes_sign _)

theorem takes_classItem : Takes (classItem pattern) := by
  refine .skip (spells_option takes_keywordName).takes fun found => ?_
  cases found <;> exact .skip hpattern fun _ => takes_pure _

theorem takes_classPattern : Takes (classPattern pattern) :=
  .branch (takes_accepts (takes_sign _)) (takes_pure _)
    (.skip (spells_commaList (takes_classItem hpattern)).takes fun _ =>
      .skip (takes_require _) fun _ => takes_sign _)

theorem takes_namePattern : Takes (namePattern pattern) :=
  .skip takes_name fun _ => .ite (takes_pure _)
    (.skip (spells_many (.seqRight (takes_sign _) takes_name)).takes fun _ =>
      .branch (takes_accepts (takes_sign _))
        (takes_classPattern hpattern) (.skip (takes_atSign _) fun _ => takes_require _))

theorem takes_closedPattern : Takes (closedPattern pattern) := by
  refine .skip takes_peek fun next => ?_
  split
  · exact .seqRight (takes_sign _) (takes_groupPattern hpattern)
  · exact .seqRight (takes_sign _) (takes_sequenceItems hpattern _)
  · exact .seqRight (takes_sign _) (takes_mappingPattern hpattern)
  · exact .orElse takes_literalPattern (takes_namePattern hpattern)

theorem takes_patternStep : Takes (patternStep pattern) :=
  .skip (spells_sepBy (takes_closedPattern hpattern) (takes_sign _)).takes fun _ =>
    .branch (takes_accepts (takes_word _)) takes_capture (takes_pure _)

omit hpattern

theorem takes_patternWithin (bound : List Token) : Takes (patternWithin bound) := by
  induction bound with
  | nil => exact .failure
  | cons _ bound ih => exact takes_patternStep ih

theorem takes_casePatterns : Takes casePatterns := by
  have hpattern : Takes Grammar.pattern := .get takes_patternWithin
  exact .skip (spells_commaSeparated (takes_sequenceItem hpattern)).takes fun _ => takes_require _

end Pattern

end Grammar

end FieldGrouping.Source
