import FieldGrouping.Lint.Directive
import FieldGrouping.Proofs.Text.NameLists
import FieldGrouping.Rule.Diagnostic

/-!
How directives are read. A line silences rules by the leftmost place where a directive opens; what
stands in closed brackets right after it are the rules, and without such brackets they are all.
Directives further right are not read.
-/

set_option autoImplicit false

namespace FieldGrouping.Lint

open Text (isBlank Listed)

/-- What opens a directive, with two gaps, up to where its rules may follow. -/
def opening (gap gap' : List Char) : List Char :=
  '#' :: (gap ++ ("schemalint:".toList ++ (gap' ++ "ignore".toList)))

/-- A directive opens in a line after some characters, and `rest` follows it. -/
def OpensAt (line before rest : List Char) : Prop :=
  ∃ gap gap', (∀ c ∈ gap ++ gap', isBlank c = true) ∧ line = before ++ (opening gap gap' ++ rest)

/-- No directive opens further left. -/
structure OpensFirst (line before rest : List Char) : Prop where
  opens : OpensAt line before rest
  leftmost : ∀ before' rest', OpensAt line before' rest' → before.length ≤ before'.length

/-- The rules that are named by what follows an opening. -/
inductive RulesAfter (rest : List Char) (rules : NameSet) : Prop where
  | bracketed {listed after : List Char} (closed : rest = '[' :: (listed ++ ']' :: after))
      (first : ']' ∉ listed) (names : ∀ name, name ∈ rules ↔ Listed name listed)
  | bare (unclosed : ∀ listed after, rest ≠ '[' :: (listed ++ ']' :: after))
      (none : ∀ name, name ∉ rules)

section Openings

variable {c : Char} {cs before rest : List Char}

theorem dropText?_eq_some_iff {expected : String} :
    dropText? expected cs = some rest ↔ cs = expected.toList ++ rest := by
  unfold dropText?
  split
  · next h =>
    obtain ⟨after, rfl⟩ := List.isPrefixOf_iff_prefix.1 h
    simp
  · next h =>
    simp only [reduceCtorEq, false_iff]
    rintro rfl
    exact h (List.isPrefixOf_iff_prefix.2 (List.prefix_append _ _))

/-- A word that is looked for behind blanks. -/
theorem dropText?_dropWhile_eq_some_iff {expected : String} {first : Char} {more : List Char}
    (word : expected.toList = first :: more) (solid : isBlank first = false) :
    dropText? expected (cs.dropWhile isBlank) = some rest ↔
      ∃ gap, (∀ c ∈ gap, isBlank c = true) ∧ cs = gap ++ (expected.toList ++ rest) := by
  rw [dropText?_eq_some_iff]
  constructor
  · intro h
    refine ⟨cs.takeWhile isBlank, fun c => List.mem_takeWhile_imp, ?_⟩
    rw [← h, List.takeWhile_append_dropWhile]
  · rintro ⟨gap, blank, rfl⟩
    refine Text.dropWhile_isBlank_append blank fun c hc => ?_
    rw [word] at hc
    obtain rfl := Option.some.inj hc
    exact solid

theorem afterDirective?_eq_some_iff :
    afterDirective? cs = some rest ↔ OpensAt ('#' :: cs) [] rest := by
  have hname : "schemalint:".toList = 's' :: "chemalint:".toList := by decide
  have hword : "ignore".toList = 'i' :: "gnore".toList := by decide
  simp only [afterDirective?, Option.bind_eq_bind, Option.bind_eq_some_iff,
    dropText?_dropWhile_eq_some_iff hname (by decide),
    dropText?_dropWhile_eq_some_iff hword (by decide), OpensAt, opening, List.nil_append,
    List.cons_append, List.append_assoc, List.cons.injEq, true_and]
  constructor
  · rintro ⟨_, ⟨gap, blank, rfl⟩, gap', blank', rfl⟩
    exact ⟨gap, gap', fun c hc => (List.mem_append.1 hc).elim (blank c) (blank' c), rfl⟩
  · rintro ⟨gap, gap', blank, rfl⟩
    exact ⟨_, ⟨gap, fun c hc => blank c (List.mem_append_left _ hc), rfl⟩,
      gap', fun c hc => blank c (List.mem_append_right _ hc), rfl⟩

theorem not_opensAt_nil : ¬ OpensAt [] before rest := by
  rintro ⟨gap, gap', _, hline⟩
  simp [opening] at hline

theorem opensAt_here :
    OpensAt (c :: cs) [] rest ↔ c = '#' ∧ afterDirective? cs = some rest := by
  rw [afterDirective?_eq_some_iff]
  constructor
  · intro hopens
    have hc : c = '#' := by
      obtain ⟨gap, gap', _, hline⟩ := hopens
      exact (List.cons.inj hline).1
    subst hc
    exact ⟨rfl, hopens⟩
  · rintro ⟨rfl, hopens⟩
    exact hopens

theorem opensAt_further {d : Char} :
    OpensAt (c :: cs) (d :: before) rest ↔ d = c ∧ OpensAt cs before rest := by
  constructor
  · rintro ⟨gap, gap', blank, hline⟩
    obtain ⟨rfl, hcs⟩ := List.cons.inj hline
    exact ⟨rfl, gap, gap', blank, hcs⟩
  · rintro ⟨rfl, gap, gap', blank, rfl⟩
    exact ⟨gap, gap', blank, rfl⟩

theorem directiveIn?_of_opens (h : OpensAt (c :: cs) [] rest) :
    directiveIn? (c :: cs) = some (bracketedRules rest) := by
  obtain ⟨rfl, hrest⟩ := opensAt_here.1 h
  simp [directiveIn?, hrest]

theorem directiveIn?_of_not_opens (h : ∀ rest, ¬ OpensAt (c :: cs) [] rest) :
    directiveIn? (c :: cs) = directiveIn? cs := by
  by_cases hc : c = '#'
  · have hnone : afterDirective? cs = none :=
      Option.eq_none_iff_forall_not_mem.2 fun rest hrest => h rest (opensAt_here.2 ⟨hc, hrest⟩)
    simp [directiveIn?, hc, hnone]
  · simp [directiveIn?, hc]

theorem directiveIn?_eq_none_iff :
    directiveIn? cs = none ↔ ∀ before rest, ¬ OpensAt cs before rest := by
  induction cs with
  | nil => simp [directiveIn?, not_opensAt_nil]
  | cons c cs ih =>
    by_cases h : ∃ rest, OpensAt (c :: cs) [] rest
    · obtain ⟨rest, h⟩ := h
      rw [directiveIn?_of_opens h]
      exact ⟨fun hnone => (Option.some_ne_none _ hnone).elim, fun hnone => (hnone [] rest h).elim⟩
    · have hhere := not_exists.1 h
      rw [directiveIn?_of_not_opens hhere, ih]
      constructor
      · intro hnone before rest
        cases before with
        | nil => exact hhere rest
        | cons d before => exact fun hopens => hnone before rest (opensAt_further.1 hopens).2
      · intro hnone before rest hopens
        exact hnone (c :: before) rest (opensAt_further.2 ⟨rfl, hopens⟩)

theorem opensFirst_of_not_opens (h : ∀ rest, ¬ OpensAt (c :: cs) [] rest) :
    OpensFirst (c :: cs) before rest ↔
      ∃ before', before = c :: before' ∧ OpensFirst cs before' rest := by
  constructor
  · rintro ⟨opens, leftmost⟩
    cases before with
    | nil => exact (h rest opens).elim
    | cons d before' =>
      obtain ⟨rfl, opens'⟩ := opensAt_further.1 opens
      refine ⟨before', rfl, opens', fun other rest' hother => ?_⟩
      exact Nat.le_of_succ_le_succ (leftmost (d :: other) rest' (opensAt_further.2 ⟨rfl, hother⟩))
  · rintro ⟨before', rfl, opens, leftmost⟩
    refine ⟨opensAt_further.2 ⟨rfl, opens⟩, fun other rest' hother => ?_⟩
    cases other with
    | nil => exact (h rest' hother).elim
    | cons d other => exact Nat.succ_le_succ (leftmost other rest' (opensAt_further.1 hother).2)

/-- What counts is what follows the leftmost opening. -/
theorem directiveIn?_eq_some_iff {rules : List String} :
    directiveIn? cs = some rules ↔
      ∃ before rest, OpensFirst cs before rest ∧ bracketedRules rest = rules := by
  -- A directive opens at the first character, and then no other counts, or all that holds of the
  -- line holds of the line without that character.
  induction cs with
  | nil =>
    simp only [directiveIn?, reduceCtorEq, false_iff]
    rintro ⟨before, rest, ⟨opens, _⟩, _⟩
    exact not_opensAt_nil opens
  | cons c cs ih =>
    by_cases h : ∃ rest, OpensAt (c :: cs) [] rest
    · obtain ⟨rest, h⟩ := h
      rw [directiveIn?_of_opens h, Option.some.injEq]
      constructor
      · exact fun heq => ⟨[], rest, ⟨h, fun _ _ _ => Nat.zero_le _⟩, heq⟩
      · rintro ⟨before, rest', ⟨opens, leftmost⟩, rfl⟩
        obtain rfl := List.length_eq_zero_iff.1 (Nat.le_zero.1 (leftmost [] rest h))
        have hrest := (opensAt_here.1 h).2.symm.trans (opensAt_here.1 opens).2
        rw [Option.some.inj hrest]
    · have hhere := not_exists.1 h
      rw [directiveIn?_of_not_opens hhere, ih]
      simp only [opensFirst_of_not_opens hhere]
      constructor
      · rintro ⟨before, rest, hfirst, hrules⟩
        exact ⟨c :: before, rest, ⟨before, rfl, hfirst⟩, hrules⟩
      · rintro ⟨_, rest, ⟨before, rfl, hfirst⟩, hrules⟩
        exact ⟨before, rest, hfirst, hrules⟩

end Openings

section Brackets

variable {rest listed after : List Char}

theorem bracketedRules_closed (first : ']' ∉ listed) (after : List Char) :
    bracketedRules ('[' :: (listed ++ ']' :: after)) = Text.commaList (String.ofList listed) := by
  have htake : (listed ++ ']' :: after).takeWhile (· != ']') = listed := by
    have hkeep : ∀ c ∈ listed, (c != ']') = true := by
      intro c hc
      simp only [bne_iff_ne]
      exact fun heq => first (heq ▸ hc)
    rw [List.takeWhile_append_of_pos hkeep]
    simp
  rw [bracketedRules, htake]
  simp

theorem bracketedRules_unclosed
    (unclosed : ∀ listed after, rest ≠ '[' :: (listed ++ ']' :: after)) :
    bracketedRules rest = [] := by
  unfold bracketedRules
  split
  · next cs =>
    split
    · next hclosed =>
      obtain ⟨listed, after, hcs⟩ := List.append_of_mem (List.contains_iff_mem.1 hclosed)
      exact absurd (congrArg (List.cons '[') hcs) (unclosed listed after)
    · rfl
  · rfl

theorem rulesAfter_iff {rules : NameSet} :
    RulesAfter rest rules ↔ rules = NameSet.ofList (bracketedRules rest) := by
  constructor
  · rintro (@⟨listed, after, rfl, first, names⟩ | ⟨unclosed, none⟩)
    · refine NameSet.eq_of_mem_iff fun name => ?_
      rw [bracketedRules_closed first, NameSet.mem_ofList, Text.mem_commaList, String.toList_ofList,
        names]
    · refine NameSet.eq_of_mem_iff fun name => ?_
      rw [bracketedRules_unclosed unclosed, NameSet.mem_ofList]
      simp [none]
  · rintro rfl
    by_cases h : ∃ cs, rest = '[' :: cs ∧ ']' ∈ cs
    · obtain ⟨cs, rfl, hclosed⟩ := h
      obtain ⟨listed, after, rfl, first⟩ := List.eq_append_cons_of_mem hclosed
      refine .bracketed rfl first fun name => ?_
      rw [bracketedRules_closed first, NameSet.mem_ofList, Text.mem_commaList, String.toList_ofList]
    · have unclosed (listed after : List Char) : rest ≠ '[' :: (listed ++ ']' :: after) :=
        fun hrest => h ⟨_, hrest, by simp⟩
      refine .bare unclosed fun name => ?_
      rw [bracketedRules_unclosed unclosed, NameSet.mem_ofList]
      simp

end Brackets

section Lines

variable {line rule : String}

theorem silencedRules?_eq_none_iff :
    silencedRules? line = none ↔ ∀ before rest, ¬ OpensAt line.toList before rest := by
  rw [silencedRules?, Option.map_eq_none_iff, directiveIn?_eq_none_iff]

theorem silencedRules?_eq_some_iff {rules : NameSet} :
    silencedRules? line = some rules ↔
      ∃ before rest, OpensFirst line.toList before rest ∧ RulesAfter rest rules := by
  simp only [silencedRules?, Option.map_eq_some_iff, directiveIn?_eq_some_iff, rulesAfter_iff]
  constructor
  · rintro ⟨_, ⟨before, rest, hfirst, rfl⟩, rfl⟩
    exact ⟨before, rest, hfirst, rfl⟩
  · rintro ⟨before, rest, hfirst, rfl⟩
    exact ⟨_, ⟨before, rest, hfirst, rfl⟩, rfl⟩

theorem lineSilences_iff :
    lineSilences line rule = true ↔
      ∃ rules, silencedRules? line = some rules ∧ ((∀ name, name ∉ rules) ∨ rule ∈ rules) := by
  unfold lineSilences
  cases silencedRules? line with
  | none => simp
  | some rules =>
    have hempty : rules.toList = [] ↔ ∀ name, name ∉ rules := List.eq_nil_iff_forall_not_mem
    simp [hempty]

theorem silences_iff {lines : List String} {number : Int} :
    silences lines number rule = true ↔
      (1 ≤ number ∧ number ≤ lines.length) ∧
        ∃ line, lines[number.toNat - 1]? = some line ∧ lineSilences line rule = true := by
  unfold silences lineAt?
  by_cases h : 1 ≤ number
  · rw [if_pos h]
    cases hline : lines[number.toNat - 1]? with
    | none => simp
    | some line =>
      obtain ⟨hlt, _⟩ := List.getElem?_eq_some_iff.1 hline
      have hle : number ≤ lines.length := by omega
      simp [h, hle]
  · simp [h]

end Lines

/-- How directives are read, for every line: there is none if nothing opens one, else the leftmost
opening counts, with the names in closed brackets right after it or none. The line of a number
silences a rule if it is there and gives rules that are empty or have it. -/
theorem directives_exact :
    (∀ line : String,
      (silencedRules? line = none ↔ ∀ before rest, ¬ OpensAt line.toList before rest) ∧
      ∀ rules, silencedRules? line = some rules ↔
        ∃ before rest, OpensFirst line.toList before rest ∧ RulesAfter rest rules) ∧
    ∀ (lines : List String) (number : Int) (rule : String),
      silences lines number rule = true ↔
        (1 ≤ number ∧ number ≤ lines.length) ∧
          ∃ line rules, lines[number.toNat - 1]? = some line ∧ silencedRules? line = some rules ∧
            ((∀ name, name ∉ rules) ∨ rule ∈ rules) := by
  refine ⟨fun line => ⟨silencedRules?_eq_none_iff, fun rules => silencedRules?_eq_some_iff⟩,
    fun lines number rule => ?_⟩
  simp only [silences_iff, lineSilences_iff, exists_and_left]

/-! ### Several directives on a line -/

/-- A comment that is a directive, with the text up to the next one. Its rules, if it has any, are
in closed brackets, and what text follows it begins with a blank. -/
structure Comment where
  gap : List Char
  gap' : List Char
  blank : ∀ c ∈ gap ++ gap', isBlank c = true
  rules : Option (List Char)
  closed : ∀ listed ∈ rules, ']' ∉ listed ∧ '#' ∉ listed
  after : List Char
  apart : ∀ c, after.head? = some c → isBlank c = true
  plain : '#' ∉ after

namespace Comment

def brackets (comment : Comment) : List Char :=
  match comment.rules with
  | none => []
  | some listed => '[' :: (listed ++ [']'])

def chars (comment : Comment) : List Char :=
  opening comment.gap comment.gap' ++ (comment.brackets ++ comment.after)

/-- Whether a comment silences a rule when it is read: it has no rules, only blank ones, or this
one. -/
def Silences (comment : Comment) (rule : String) : Prop :=
  ∀ listed ∈ comment.rules, (∀ name, ¬ Listed name listed) ∨ Listed rule listed

end Comment

/-- A line with comments after some text. -/
def commentedLine (lead : List Char) (comments : List Comment) : String :=
  String.ofList (lead ++ comments.flatMap Comment.chars)

section Comments

variable {lead : List Char} {comments : List Comment} {rule : String}

theorem directiveIn?_append_of_plain (plain : '#' ∉ lead) (cs : List Char) :
    directiveIn? (lead ++ cs) = directiveIn? cs := by
  induction lead with
  | nil => rfl
  | cons c lead ih =>
    rw [List.mem_cons, not_or] at plain
    rw [List.cons_append, directiveIn?, if_neg (Ne.symm plain.1), ih plain.2]

theorem directiveIn?_chars (comment : Comment) (more : List Char) :
    directiveIn? (comment.chars ++ more) =
      some (bracketedRules (comment.brackets ++ (comment.after ++ more))) := by
  have hopens : OpensAt (comment.chars ++ more) []
      (comment.brackets ++ (comment.after ++ more)) := by
    refine ⟨comment.gap, comment.gap', comment.blank, ?_⟩
    simp only [Comment.chars, List.append_assoc, List.nil_append]
  exact directiveIn?_of_opens hopens

/-- What follows a comment without rules does not look like rules. -/
theorem head?_after_ne (comment : Comment) (others : List Comment) :
    (comment.after ++ others.flatMap Comment.chars).head? ≠ some '[' := by
  cases hafter : comment.after with
  | nil => cases others <;> simp [Comment.chars, opening]
  | cons c after =>
    have hblank : isBlank c = true := comment.apart c (by rw [hafter, List.head?_cons])
    have hbracket : isBlank '[' = false := by decide
    intro hc
    obtain rfl := Option.some.inj hc
    rw [hblank] at hbracket
    cases hbracket

theorem mem_bracketedRules_comment (comment : Comment) (others : List Comment) (name : String) :
    name ∈ bracketedRules
        (comment.brackets ++ (comment.after ++ others.flatMap Comment.chars)) ↔
      ∃ listed ∈ comment.rules, Listed name listed := by
  cases hrules : comment.rules with
  | none =>
    have hempty : bracketedRules (comment.after ++ others.flatMap Comment.chars) = [] := by
      refine bracketedRules_unclosed fun listed after heq => head?_after_ne comment others ?_
      rw [heq, List.head?_cons]
    simp [Comment.brackets, hrules, hempty]
  | some listed =>
    have hfirst : ']' ∉ listed := (comment.closed listed hrules).1
    rw [Comment.brackets, hrules]
    simp only [List.cons_append, List.append_assoc, List.nil_append, bracketedRules_closed hfirst,
      Text.mem_commaList, String.toList_ofList, Option.mem_some_iff, exists_eq_left']

theorem lineSilences_commentedLine (plain : '#' ∉ lead) :
    lineSilences (commentedLine lead comments) rule = true ↔
      ∃ first ∈ comments.head?, first.Silences rule := by
  rw [lineSilences_iff, silencedRules?, commentedLine, String.toList_ofList,
    directiveIn?_append_of_plain plain]
  cases comments with
  | nil => simp [directiveIn?]
  | cons comment others =>
    rw [List.flatMap_cons, directiveIn?_chars]
    simp only [Option.map_some, Option.some.injEq, exists_eq_left', NameSet.mem_ofList,
      mem_bracketedRules_comment, List.head?_cons, Option.mem_some_iff, Comment.Silences]
    cases comment.rules <;> simp

theorem silences_line (above below : List String) (line rule : String) :
    silences (above ++ line :: below) (above.length + 1) rule = lineSilences line rule := by
  have hline : lineAt? (above ++ line :: below) (above.length + 1) = some line := by
    rw [lineAt?, if_pos (by omega)]
    simp
  rw [silences, hline]

end Comments

/-- Of several directives on a line only the first is read. So they add up, whatever their order,
just if all of them silence a rule or none does. -/
theorem silences_by_first_comment (above below : List String) (lead : List Char)
    (plain : '#' ∉ lead) (comments : List Comment) (rule : String) :
    (silences (above ++ commentedLine lead comments :: below) (above.length + 1) rule = true ↔
      ∃ first ∈ comments.head?, first.Silences rule) ∧
    ((∀ order : List Comment, order.Perm comments →
        (silences (above ++ commentedLine lead order :: below) (above.length + 1) rule = true ↔
          ∃ comment ∈ comments, comment.Silences rule)) ↔
      (∀ comment ∈ comments, comment.Silences rule) ∨
        ∀ comment ∈ comments, ¬ comment.Silences rule) := by
  simp only [silences_line, lineSilences_commentedLine plain, true_and]
  constructor
  · intro h
    by_contra hmixed
    obtain ⟨⟨quiet, hquiet, hn⟩, loud, hloud, hsilences⟩ :
        (∃ comment ∈ comments, ¬ comment.Silences rule) ∧
          ∃ comment ∈ comments, comment.Silences rule := by
      simpa [not_or] using hmixed
    -- put a directive that does not silence the rule in front
    obtain ⟨before, after, rfl⟩ := List.append_of_mem hquiet
    obtain ⟨first, hfirst, hs⟩ := (h (quiet :: (before ++ after)) List.perm_middle.symm).2
      ⟨loud, hloud, hsilences⟩
    obtain rfl := Option.some.inj hfirst
    exact hn hs
  · intro h order hperm
    constructor
    · rintro ⟨first, hfirst, hs⟩
      exact ⟨first, hperm.mem_iff.1 (List.mem_of_mem_head? hfirst), hs⟩
    · rintro ⟨comment, hcomment, hs⟩
      rcases h with hall | hnone
      · cases order with
        | nil => exact absurd (hperm.mem_iff.2 hcomment) List.not_mem_nil
        | cons first others => exact ⟨first, rfl, hall first (hperm.mem_iff.1 (by simp))⟩
      · exact absurd hs (hnone comment hcomment)

/-- A directive for some rules. -/
def ignoring (listed : List Char) (closed : ']' ∉ listed ∧ '#' ∉ listed) : Comment where
  gap := [' ']
  gap' := [' ']
  blank c hc := by
    obtain rfl : c = ' ' := by simpa using hc
    decide
  rules := some listed
  closed := by simpa using closed
  after := [' ']
  apart c hc := by
    obtain rfl := Option.some.inj hc
    decide
  plain := by decide

theorem silences_ignoring_iff {listed : List Char} (closed : ']' ∉ listed ∧ '#' ∉ listed)
    {rule : String} :
    (ignoring listed closed).Silences rule ↔
      Text.commaList (String.ofList listed) = [] ∨
        rule ∈ Text.commaList (String.ofList listed) := by
  simp only [Comment.Silences, ignoring, Option.mem_some_iff, forall_eq',
    List.eq_nil_iff_forall_not_mem, Text.mem_commaList, String.toList_ofList]

/-- A directive for this rule after one for another. -/
def laterComment : List Comment :=
  [ignoring "other".toList (by decide), ignoring ruleName.toList (by decide)]

theorem silences_by_first_comment_reversed :
    '#' ∉ "a_y = F()  ".toList ∧
    silences ["class A:", commentedLine "a_y = F()  ".toList laterComment.reverse] 2 ruleName =
      true ∧
    ¬ ∀ order : List Comment, order.Perm laterComment.reverse →
      (silences ["class A:", commentedLine "a_y = F()  ".toList order] 2 ruleName = true ↔
        ∃ comment ∈ laterComment.reverse, comment.Silences ruleName) := by
  have hrule : (ignoring ruleName.toList (by decide)).Silences ruleName :=
    (silences_ignoring_iff _).2 (by decide +kernel)
  have hother : ¬ (ignoring "other".toList (by decide)).Silences ruleName :=
    fun h => absurd ((silences_ignoring_iff _).1 h) (by decide +kernel)
  obtain ⟨hfirst, horder⟩ := silences_by_first_comment ["class A:"] [] "a_y = F()  ".toList
    (by decide) laterComment.reverse ruleName
  refine ⟨by decide, hfirst.2 ⟨_, rfl, hrule⟩, fun h => ?_⟩
  rcases horder.1 h with hall | hnone
  · exact hother (hall _ (by simp [laterComment]))
  · exact hnone _ (by simp [laterComment]) hrule

/-- The directive that names the rule is not the first one, and is not read. -/
theorem silences_misses_later_comment :
    '#' ∉ "a_y = F()  ".toList ∧
    commentedLine "a_y = F()  ".toList laterComment =
      "a_y = F()  # schemalint: ignore[other] # schemalint: ignore[extract-type] " ∧
    (∃ comment ∈ laterComment, comment.Silences ruleName) ∧
    silences [commentedLine "a_y = F()  ".toList laterComment] 1 ruleName = false := by
  refine ⟨by decide, by decide +kernel, ⟨_, List.mem_cons_of_mem _ List.mem_cons_self, ?_⟩,
    by decide +kernel⟩
  exact (silences_ignoring_iff _).2 (by decide +kernel)

end FieldGrouping.Lint
