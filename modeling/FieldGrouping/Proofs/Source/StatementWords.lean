import FieldGrouping.Proofs.Source.ExpressionWords
import FieldGrouping.Source.Statement

/-!
The words of statements. What is read from a source has the words of its tokens, in their order.
-/

set_option autoImplicit false

namespace FieldGrouping.Source

mutual

/-- The names in a statement that are kept of it, in the order in which they are written. -/
def Stmt.words : Stmt → List Word
  | .assign targets value => targets.flatMap Expr.words ++ value.words
  | .annotate target typing value =>
    target.words ++ typing.words ++ value.toList.flatMap Expr.words
  | .simple => []
  | .typeDefinition name decorators bases body =>
    decorators.flatMap Expr.words ++ [name] ++ bases.flatMap (·.2.words) ++ wordsIn body
  | .compound bodies => wordsInBodies bodies

def wordsIn : List Stmt → List Word
  | [] => []
  | s :: rest => s.words ++ wordsIn rest

def wordsInBodies : List (List Stmt) → List Word
  | [] => []
  | body :: rest => wordsIn body ++ wordsInBodies rest

end

theorem wordsIn_eq (body : List Stmt) : wordsIn body = body.flatMap Stmt.words := by
  induction body with
  | nil => rfl
  | cons s rest ih => rw [wordsIn, ih, List.flatMap_cons]

theorem wordsInBodies_eq (bodies : List (List Stmt)) :
    wordsInBodies bodies = bodies.flatMap wordsIn := by
  induction bodies with
  | nil => rfl
  | cons body rest ih => rw [wordsInBodies, ih, List.flatMap_cons]

attribute [simp] Stmt.words wordsInBodies_eq

theorem wordsIn_flatten (bodies : List (List Stmt)) :
    wordsIn bodies.flatten = bodies.flatMap wordsIn := by
  induction bodies with
  | nil => rfl
  | cons body rest ih => simp_all [wordsIn_eq]

open Parse

namespace Grammar

section Simple

theorem spells_assignmentFrom (first : Expr) :
    Spells first.words Stmt.words (assignmentFrom first) := by
  refine .bind (spells_many1 (.seqRight (takes_sign _) (spells_assigned spells_expr)))
    fun later => .skip (takes_require _) fun _ => .pure ?_
  have hall : (first :: later).dropLast ++ [(first :: later).getLast?.getD .other] =
      first :: later := by
    rw [List.getLast?_eq_some_getLast (List.cons_ne_nil first later), Option.getD_some,
      List.dropLast_concat_getLast]
  have hwords := congrArg (List.flatMap Expr.words) hall
  simp only [List.flatMap_append, List.flatMap_cons, List.flatMap_nil, List.append_nil] at hwords
  simp only [Stmt.words]
  exact hwords ▸ List.Sublist.refl _

theorem spells_typingFrom (target : Expr) :
    Spells target.words Stmt.words (typingFrom target) := by
  refine .skip (takes_sign _) fun _ => .bind (spells_expr _) fun typing =>
    .branch (takes_accepts (takes_sign _)) ?_ ?_
  · exact .bind (spells_assigned spells_expr) fun _ => .pure (by simp)
  · exact .pure (by simp)

theorem spells_expressionStatement : Spells [] Stmt.words expressionStatement := by
  refine .bind (spells_starExprs spells_expr) fun e => .branch (takes_atSign _)
    (spells_assignmentFrom e) ?_
  refine .branch (takes_atSign _)
    (.skip (takes_require _) fun _ => spells_typingFrom e) ?_
  refine .branch (takes_accepts (takes_signOf _)) ?_ (.pure (by simp))
  exact .skip (takes_require _) fun _ => .skip (spells_assigned spells_expr).takes fun _ =>
    .pure (by simp)

theorem takes_modulePath : Takes modulePath :=
  .skip (spells_sepBy spells_name (takes_sign _)).takes fun _ => takes_pure _

theorem takes_newName : Takes newName :=
  .branch (takes_accepts (takes_word _))
    (.skip takes_name fun _ => takes_pure _) (takes_pure _)

theorem takes_importedNames : Takes importedNames := by
  have hname : Takes (name *> newName) := .seqRight takes_name takes_newName
  refine .branch (takes_accepts (takes_sign _)) (takes_pure _) ?_
  refine .branch (takes_accepts (takes_sign _)) ?_ ?_
  · exact .skip (spells_commaList hname).takes fun _ => takes_sign _
  · exact .skip (spells_sepBy hname (takes_sign _)).takes fun _ => takes_pure _

theorem takes_importSource : Takes importSource :=
  .skip (spells_many (takes_signOf _)).takes fun _ =>
    .skip (takes_accepts takes_modulePath) fun _ => takes_require _

theorem takes_typeParameter : Takes typeParameter := by
  have hdefault {p : Parse Expr} (hp : Spells [] Expr.words p) : Takes (do
      if ← accepts (sign "=") then
        let _ ← p) :=
    .branch (takes_accepts (takes_sign _))
      (.skip hp.takes fun _ => takes_pure _) (takes_pure _)
  refine .branch (takes_accepts (takes_sign _)) ?_ ?_
  · exact .skip takes_name fun _ => hdefault (spells_expr _)
  refine .branch (takes_accepts (takes_sign _)) ?_ ?_
  · exact .skip takes_name fun _ => hdefault (spells_starExpr spells_expr)
  refine .skip takes_name fun _ => .branch (takes_accepts (takes_sign _)) ?_ ?_
  · exact .skip (spells_expr _).takes fun _ => hdefault (spells_expr _)
  · exact hdefault (spells_expr _)

theorem takes_typeParameters : Takes typeParameters :=
  .branch (takes_accepts (takes_sign _))
    (.skip (spells_commaList takes_typeParameter).takes fun _ => takes_sign _) (takes_pure _)

theorem spells_typeAlias : Spells [] Stmt.words typeAlias :=
  .skip (takes_word _) fun _ => .skip takes_name fun _ => .skip takes_typeParameters fun _ =>
    .skip (takes_sign _) fun _ => .skip (spells_expr _).takes fun _ => .pure (by simp)

theorem takes_deletion : Takes deletion :=
  .skip (spells_commaList (spells_expr _)).takes fun _ => takes_require _

theorem takes_keywordStatement {keyword : String} {rest : Parse Unit}
    (h : keywordStatement keyword = some rest) : Takes rest := by
  have hexpr : Takes (expr .expression) := (spells_expr _).takes
  unfold keywordStatement at h
  split at h <;> cases h
  · exact .skip (spells_option (spells_starExprs spells_expr)).takes fun _ => takes_pure _
  · exact .skip (spells_sepBy (.seqRight takes_modulePath takes_newName) (takes_sign _)).takes
      fun _ => takes_pure _
  · exact .skip takes_importSource fun _ => .skip (takes_word _) fun _ => takes_importedNames
  · refine .skip (spells_option hexpr).takes fun _ => .ite ?_ (takes_pure _)
    exact .branch (takes_accepts (takes_word _))
      (.skip hexpr fun _ => takes_pure _) (takes_pure _)
  · exact takes_pure _
  · exact takes_pure _
  · exact takes_pure _
  · exact takes_deletion
  · exact .skip hexpr fun _ => .branch (takes_accepts (takes_sign _))
      (.skip hexpr fun _ => takes_pure _) (takes_pure _)
  · exact .skip (spells_sepBy takes_name (takes_sign _)).takes fun _ => takes_pure _
  · exact .skip (spells_sepBy takes_name (takes_sign _)).takes fun _ => takes_pure _

theorem spells_simpleStatement : Spells [] Stmt.words simpleStatement := by
  refine .skip takes_peek fun next => ?_
  split
  · split
    · next rest hrest =>
      exact .skip (takes_word _) fun _ => .skip (takes_keywordStatement hrest) fun _ =>
        .pure (by simp)
    · refine .ite (.skip (spells_yieldExpr spells_expr).takes fun _ => .pure (by simp)) ?_
      exact .ite (.orElse spells_typeAlias spells_expressionStatement) spells_expressionStatement
  · exact spells_expressionStatement

theorem spells_statementLine : Spells [] wordsIn statementLine :=
  .bind (spells_sepBy spells_simpleStatement (takes_sign _)) fun _ =>
    .skip (takes_accepts (takes_sign _)) fun _ => .skip (takes_exactly rfl) fun _ =>
      .pure (by simp [wordsIn_eq])

end Simple

section Compound

variable {body : Parse (List Stmt)} (hbody : Spells [] wordsIn body)

include hbody

theorem spells_colonBody : Spells [] wordsIn (colonBody body) :=
  .seqRight (takes_sign _) hbody

theorem spells_elsePart : Spells [] (·.flatMap wordsIn) (elsePart body) := by
  refine .bind (spells_option (.seqRight (takes_word _) (spells_colonBody hbody))) fun found => ?_
  cases found <;> exact .pure (by simp)

theorem spells_conditional : Spells [] wordsIn (conditional body) :=
  .skip (spells_namedExpr spells_expr).takes fun _ => spells_colonBody hbody

theorem spells_ifStatement : Spells [] Stmt.words (ifStatement body) :=
  .skip (takes_word _) fun _ => .bind (spells_conditional hbody) fun _ =>
    .bind (spells_many (.seqRight (takes_word _) (spells_conditional hbody))) fun _ =>
      .bind (spells_elsePart hbody) fun _ => .pure (by simp)

theorem spells_whileStatement : Spells [] Stmt.words (whileStatement body) :=
  .skip (takes_word _) fun _ => .bind (spells_conditional hbody) fun _ =>
    .bind (spells_elsePart hbody) fun _ => .pure (by simp)

theorem spells_forStatement : Spells [] Stmt.words (forStatement body) :=
  .skip (takes_word _) fun _ => .skip (spells_commaList (spells_target spells_expr)).takes fun _ =>
    .skip (takes_word _) fun _ => .skip (spells_starExprs spells_expr).takes fun _ =>
      .bind (spells_colonBody hbody) fun _ => .bind (spells_elsePart hbody) fun _ =>
        .pure (by simp)

omit hbody in
theorem takes_withItem : Takes withItem :=
  .skip (spells_expr _).takes fun _ => .branch (takes_accepts (takes_word _))
    (.skip (spells_target spells_expr).takes fun _ => takes_pure _) (takes_pure _)

omit hbody in
theorem takes_withItems : Takes withItems :=
  .orElse
    (.skip (takes_sign _) fun _ => .skip (spells_commaList takes_withItem).takes fun _ =>
      .skip (takes_sign _) fun _ => takes_sign _)
    (.skip (spells_sepBy takes_withItem (takes_sign _)).takes fun _ => takes_sign _)

theorem spells_withStatement : Spells [] Stmt.words (withStatement body) :=
  .skip (takes_word _) fun _ => .skip takes_withItems fun _ => .bind hbody fun _ =>
    .pure (by simp)

theorem spells_handler {mark : Parse Unit} (hmark : Takes mark) (needsType : Bool) :
    Spells [] wordsIn (handler body mark needsType) := by
  refine .skip (takes_word _) fun _ => .skip hmark fun _ =>
    .skip (spells_option (spells_expr _)).takes fun found => ?_
  cases found with
  | none => exact .skip (takes_require _) fun _ => spells_colonBody hbody
  | some _ => exact .skip takes_newName fun _ => spells_colonBody hbody

theorem spells_handlers : Spells [] (·.flatMap wordsIn) (handlers body) := by
  have hplain : Takes (do require !(← atSign "*")) :=
    .skip (takes_atSign _) fun _ => takes_require _
  exact .orElse (spells_many1 (spells_handler hbody hplain _))
    (spells_many1 (spells_handler hbody (takes_sign _) _))

theorem spells_tryStatement : Spells [] Stmt.words (tryStatement body) := by
  refine .skip (takes_word _) fun _ => .bind (spells_colonBody hbody) fun first =>
    .bind (spells_option (spells_handlers hbody)) fun caught => ?_
  have hnone : Spells [] (·.flatMap wordsIn) (pure [] : Parse (List (List Stmt))) :=
    .pure (by simp)
  have hlast := spells_option (Spells.seqRight (takes_word "finally") (spells_colonBody hbody))
  refine .ite (.bind (spells_elsePart hbody) fun other => ?_) (.bind hnone fun other => ?_) <;>
  · refine .bind hlast fun last => .skip (takes_require _) fun _ => .pure ?_
    cases caught <;> cases last <;> simp

omit hbody in
theorem takes_typed {p : Parse Expr} (hp : Spells [] Expr.words p) : Takes (typed p) :=
  .branch (takes_accepts (takes_sign _))
    (.skip hp.takes fun _ => takes_pure _) (takes_pure _)

theorem spells_functionDefinition : Spells [] Stmt.words (functionDefinition body) := by
  have hexpr : Takes (expr .expression) := (spells_expr _).takes
  refine .skip (takes_word _) fun _ => .skip takes_name fun _ => .skip takes_typeParameters fun _ =>
    .skip (takes_sign _) fun _ => ?_
  refine .skip (takes_parameters (takes_typed (spells_expr _))
    (takes_typed (spells_starExpr spells_expr)) (.map hexpr)) fun _ =>
      .skip (takes_sign _) fun _ => ?_
  refine .branch (takes_accepts (takes_sign _)) ?_ ?_
  · exact .skip hexpr fun _ => .bind (spells_colonBody hbody) fun _ => .pure (by simp)
  · exact .bind (spells_colonBody hbody) fun _ => .pure (by simp)

theorem spells_classDefinition (decorators : List Expr) :
    Spells (decorators.flatMap Expr.words) Stmt.words (classDefinition body decorators) := by
  have hnone : Spells [] (·.flatMap (·.2.words)) (pure [] : Parse (List (Passing × Expr))) :=
    .pure (by simp)
  refine .skip (takes_word _) fun _ => .bind spells_name fun w =>
    .skip takes_typeParameters fun _ => .branch (takes_accepts (takes_sign _))
      (.bind (spells_arguments spells_expr) fun _ => ?_) (.bind hnone fun _ => ?_) <;>
  exact .skip (takes_require _) fun _ =>
    .bind (spells_colonBody hbody) fun _ => .pure (by simp)

theorem spells_asyncStatement : Spells [] Stmt.words (asyncStatement body) :=
  .skip (takes_word _) fun _ => .orElse (spells_functionDefinition hbody)
    (.orElse (spells_forStatement hbody) (spells_withStatement hbody))

omit hbody in
theorem spells_decorator : Spells [] Expr.words decorator :=
  .skip (takes_sign _) fun _ => .bind (spells_namedExpr spells_expr) fun _ =>
    .skip (takes_exactly rfl) fun _ => .pure (by simp)

theorem spells_decoratedDefinition : Spells [] Stmt.words (decoratedDefinition body) :=
  .bind (spells_many1 spells_decorator) fun decorators =>
    .orElse (spells_classDefinition hbody decorators)
      (.orElse (spells_functionDefinition hbody).after
        (.seqRight (takes_word _) (spells_functionDefinition hbody).after))

omit hbody in
theorem takes_subject : Takes subject :=
  .skip (spells_starNamed spells_expr).takes fun _ => .branch (takes_atSign _)
    (.skip (spells_furtherItems (spells_starNamed spells_expr)).takes fun _ => takes_pure _)
      (takes_require _)

theorem spells_caseBlock : Spells [] wordsIn (caseBlock body) :=
  .skip (takes_word _) fun _ => .skip takes_casePatterns fun _ =>
    .branch (takes_accepts (takes_word _))
      (.skip (spells_namedExpr spells_expr).takes fun _ => spells_colonBody hbody)
        (spells_colonBody hbody)

theorem spells_matchStatement : Spells [] Stmt.words (matchStatement body) :=
  .skip (takes_word _) fun _ => .skip takes_subject fun _ => .skip (takes_sign _) fun _ =>
    .skip (takes_exactly rfl) fun _ => .skip (takes_exactly rfl) fun _ =>
      .bind (spells_many1 (spells_caseBlock hbody)) fun _ => .skip (takes_exactly rfl) fun _ =>
        .pure (by simp)

theorem spells_statement : Spells [] wordsIn (statement body) := by
  have hsingle {p : Parse Stmt} (hp : Spells [] Stmt.words p) :
      Spells [] wordsIn (do return [← p]) :=
    .bind hp fun _ => .pure (by simp [wordsIn])
  refine .skip takes_peek fun next => ?_
  split
  · exact hsingle (spells_decoratedDefinition hbody)
  · split
    · exact hsingle (spells_ifStatement hbody)
    · exact hsingle (spells_whileStatement hbody)
    · exact hsingle (spells_forStatement hbody)
    · exact hsingle (spells_withStatement hbody)
    · exact hsingle (spells_tryStatement hbody)
    · exact hsingle (spells_functionDefinition hbody)
    · exact hsingle (spells_classDefinition hbody [])
    · exact hsingle (spells_asyncStatement hbody)
    · exact .orElse (hsingle (spells_matchStatement hbody)) spells_statementLine
    · exact spells_statementLine
  · exact spells_statementLine

theorem spells_bodyStep : Spells [] wordsIn (bodyStep body) := by
  refine .branch (takes_accepts (takes_exactly rfl)) ?_ spells_statementLine
  exact .skip (takes_exactly rfl) fun _ => .bind (spells_many1 (spells_statement hbody)) fun _ =>
    .skip (takes_exactly rfl) fun _ => .pure (by simp [wordsIn_flatten])

end Compound

theorem spells_bodyWithin (bound : List Token) : Spells [] wordsIn (bodyWithin bound) := by
  induction bound with
  | nil => exact .failure
  | cons _ bound ih => exact spells_bodyStep ih

theorem spells_sourceFile : Spells [] wordsIn sourceFile := by
  have hbody : Spells [] wordsIn nestedBody := .get spells_bodyWithin
  exact .bind (spells_many (spells_statement hbody)) fun _ => .pure (by simp [wordsIn_flatten])

end Grammar

/-- A source has the words of its tokens outside of format strings, in their order. -/
theorem wordsIn_sublist_of_parse? {text : String} {statements : List Stmt}
    (h : parse? text = some statements) :
    ∃ tokens, tokens? text = some tokens ∧ (wordsIn statements).Sublist (outerWords 0 tokens) := by
  unfold parse? at h
  simp only [Option.bind_eq_bind, Option.bind_eq_some_iff] at h
  obtain ⟨tokens, htokens, ⟨found, rest⟩, hrun, heq⟩ := h
  cases rest with
  | cons t others => cases heq
  | nil =>
    cases heq
    obtain ⟨taken, rfl, _, hwords⟩ := Grammar.spells_sourceFile hrun
    exact ⟨_, htokens, by simpa using hwords⟩

end FieldGrouping.Source
