import FieldGrouping.Proofs.Fallible
import FieldGrouping.Proofs.Source.Reading
import FieldGrouping.Source.Lexer

/-!
The words among the tokens of a text. Outside of format strings they stand one after another in the
text, and each begins as a name does. The words in a field of a format string are marked as if the
field were a text of its own, and so they are left out here.
-/

set_option autoImplicit false

namespace FieldGrouping.Source

instance : LT Mark :=
  ⟨fun a b => a.line < b.line ∨ a.line = b.line ∧ a.column < b.column⟩

instance : LE Mark :=
  ⟨fun a b => a.line < b.line ∨ a.line = b.line ∧ a.column ≤ b.column⟩

section Mark

variable {a b c : Mark}

theorem Mark.lt_iff : a < b ↔ a.line < b.line ∨ a.line = b.line ∧ a.column < b.column :=
  Iff.rfl

theorem Mark.le_iff : a ≤ b ↔ a.line < b.line ∨ a.line = b.line ∧ a.column ≤ b.column :=
  Iff.rfl

theorem Mark.le_refl (a : Mark) : a ≤ a := by
  simp [le_iff]

theorem Mark.le_trans (h : a ≤ b) (h' : b ≤ c) : a ≤ c := by
  rw [le_iff] at *
  omega

theorem Mark.le_of_lt (h : a < b) : a ≤ b := by
  rw [lt_iff] at h
  rw [le_iff]
  omega

theorem Mark.lt_of_lt_of_le (h : a < b) (h' : b ≤ c) : a < c := by
  rw [le_iff] at h'
  rw [lt_iff] at *
  omega

theorem Mark.le_after (mark : Mark) (cs : List Char) : mark ≤ mark.after cs := by
  induction cs generalizing mark with
  | nil => exact le_refl mark
  | cons c cs ih =>
    refine le_trans ?_ (ih _)
    rw [le_iff]
    dsimp only
    split <;> simp

theorem Mark.lt_after (mark : Mark) {cs : List Char} (h : cs ≠ []) : mark < mark.after cs := by
  cases cs with
  | nil => contradiction
  | cons c cs =>
    refine lt_of_lt_of_le ?_ (le_after _ cs)
    rw [lt_iff]
    dsimp only
    split <;> simp

end Mark

/-- Whether a word begins as a name does. -/
def Word.isNamed (w : Word) : Bool :=
  w.text.toList.head?.any Text.isNameStart

/-- Words from a place on, each after the one before it, that begin as names do. -/
structure Advances (start : Mark) (words : List Word) : Prop where
  ordered : words.Pairwise fun v w => v.mark < w.mark
  onward : ∀ w ∈ words, start ≤ w.mark
  named : ∀ w ∈ words, w.isNamed = true

section Advances

variable {start next : Mark} {words : List Word}

theorem advances_nil : Advances start [] :=
  ⟨.nil, by simp, by simp⟩

theorem Advances.earlier (h : Advances next words) (le : start ≤ next) : Advances start words :=
  ⟨h.ordered, fun w hw => Mark.le_trans le (h.onward w hw), h.named⟩

theorem Advances.cons (h : Advances next words) {w : Word} (lt : w.mark < next)
    (named : w.isNamed = true) : Advances w.mark (w :: words) where
  ordered := .cons (fun v hv => Mark.lt_of_lt_of_le lt (h.onward v hv)) h.ordered
  onward v hv := by
    rcases List.mem_cons.1 hv with rfl | hv
    · exact Mark.le_refl _
    · exact Mark.le_of_lt (Mark.lt_of_lt_of_le lt (h.onward v hv))
  named := List.forall_mem_cons.2 ⟨named, h.named⟩

end Advances

/-- Whether a token is neither a word nor an end of a format string. -/
def Token.isSilent : Token → Bool
  | .word _ => false
  | .formatStart => false
  | .formatEnd => false
  | _ => true

theorem closed_of_silent {tokens : List Token} (h : ∀ t ∈ tokens, t.isSilent = true) :
    Closed tokens ∧ outerWords 0 tokens = [] := by
  induction tokens with
  | nil => exact ⟨closed_nil, rfl⟩
  | cons t rest ih =>
    obtain ⟨ht, hrest⟩ := List.forall_mem_cons.1 h
    obtain ⟨hclosed, hwords⟩ := ih hrest
    have hinner : t.isInner = true := by cases t <;> simp_all [Token.isSilent, Token.isInner]
    refine ⟨(closed_singleton hinner).append hclosed, ?_⟩
    cases t <;> simp_all [Token.isSilent, outerWords]

namespace Lexer

/-- What a step gives from a place on: closed tokens, whose words go before those that follow. -/
def Step.Leads (start : Mark) : Step → Prop
  | .tokens found next => Closed found ∧
    ∀ words, Advances next.mark words → Advances start (outerWords 0 found ++ words)
  | .format _ next => start ≤ next.mark
  | .finished found => Closed found ∧ outerWords 0 found = []

section Step

variable {state : State}

theorem le_mark_take (count : Nat) : state.mark ≤ (state.take count).mark :=
  Mark.le_after _ _

theorem leads_silent {start : Mark} {tokens : List Token} {next : State}
    (silent : ∀ t ∈ tokens, t.isSilent = true) (le : start ≤ next.mark) :
    (Step.tokens tokens next).Leads start := by
  obtain ⟨hclosed, hwords⟩ := closed_of_silent silent
  refine ⟨hclosed, fun words h => ?_⟩
  rw [hwords]
  exact h.earlier le

theorem silent_dedents {now : Indentation} {open_ left : List Indentation} {tokens : List Token}
    (h : dedents now open_ = some (tokens, left)) : ∀ t ∈ tokens, t.isSilent = true := by
  induction open_ generalizing tokens left with
  | nil => cases h
  | cons top outer ih =>
    unfold dedents at h
    split at h
    · obtain ⟨⟨inner, _⟩, hinner, heq⟩ := Option.map_eq_some_iff.1 h
      cases heq
      exact List.forall_mem_cons.2 ⟨rfl, ih hinner⟩
    · split at h
      · cases h
        simp
      · cases h

theorem silent_indentTokens {now : Indentation} {open_ left : List Indentation}
    {tokens : List Token} (h : indentTokens now open_ = some (tokens, left)) :
    ∀ t ∈ tokens, t.isSilent = true := by
  unfold indentTokens at h
  split at h
  · cases h
  · split at h
    · split at h <;> cases h
      simp
    · split at h
      · split at h <;> cases h
        simp [Token.isSilent]
      · exact silent_dedents h

theorem leads_startLine {tokens : List Token} {next : State}
    (h : startLine state = some (tokens, next)) : (Step.tokens tokens next).Leads state.mark := by
  unfold startLine at h
  simp only [Option.bind_eq_bind, Option.bind_eq_some_iff] at h
  obtain ⟨⟨now, passed, rest⟩, _, h⟩ := h
  dsimp only at h
  split at h
  · cases h
    exact leads_silent (by simp) (le_mark_take _)
  · cases h
    exact leads_silent (by simp) (le_mark_take _)
  · obtain ⟨⟨tokens, indentations⟩, hindent, heq⟩ := Option.bind_eq_some_iff.1 h
    cases heq
    exact leads_silent (silent_indentTokens hindent) (le_mark_take _)

theorem leads_finish {lineOpen : Bool} {tokens : List Token}
    (h : finish state lineOpen = some tokens) : (Step.finished tokens).Leads state.mark := by
  refine closed_of_silent fun t ht => ?_
  unfold finish at h
  split at h
  · cases h
    rcases List.mem_append.1 ht with ht | ht
    · cases lineOpen <;> simp_all [Token.isSilent]
    · obtain rfl := List.eq_of_mem_replicate ht
      rfl
  · cases h

theorem leads_numeralStep {found : Step} (h : numeralStep state = some found) :
    found.Leads state.mark := by
  unfold numeralStep at h
  obtain ⟨⟨imaginary, rest⟩, _, heq⟩ := Option.bind_eq_some_iff.1 h
  cases heq
  exact leads_silent (by simp [Token.isSilent]) (le_mark_take _)

theorem leads_quotedStep {found : Step} (h : quotedStep state = some found) :
    found.Leads state.mark := by
  unfold quotedStep at h
  obtain ⟨⟨kind, letters, rest⟩, _, h⟩ := Option.bind_eq_some_iff.1 h
  obtain ⟨⟨quotes, body, after⟩, _, h⟩ := Option.bind_eq_some_iff.1 h
  dsimp only at h
  split at h
  · obtain ⟨fields, _, heq⟩ := Option.bind_eq_some_iff.1 h
    cases heq
    exact le_mark_take _
  · cases h
    exact leads_silent (by simp [Token.isSilent]) (le_mark_take _)

theorem leads_word {tokens : List Token} {next : State}
    (h : word state = some (tokens, next)) : (Step.tokens tokens next).Leads state.mark := by
  unfold word at h
  cases hchars : state.rest.takeWhile isWordChar with
  | nil => simp [hchars] at h
  | cons first others =>
    simp only [hchars] at h
    split at h
    · next hname =>
      cases h
      have hchars_take : state.rest.take (first :: others).length = first :: others := by
        rw [← hchars]
        exact (List.prefix_iff_eq_take.1 (List.takeWhile_prefix _)).symm
      have hlt : state.mark < (state.take (first :: others).length).mark := by
        refine Mark.lt_after _ ?_
        rw [hchars_take]
        exact List.cons_ne_nil first others
      have hfirst : Text.isNameStart first = true := (Bool.and_eq_true_iff.1 hname).1
      refine ⟨closed_singleton rfl, fun words hwords => ?_⟩
      have hcons := hwords.cons (w := ⟨String.ofList (first :: others), state.mark⟩) hlt
      exact hcons (by simpa [Word.isNamed] using hfirst)
    · cases h

theorem leads_sign {tokens : List Token} {next : State}
    (h : sign state = some (tokens, next)) : (Step.tokens tokens next).Leads state.mark := by
  unfold sign at h
  obtain ⟨text, _, h⟩ := Option.bind_eq_some_iff.1 h
  have hresult : tokens = [.sign text] ∧ next.mark = (state.take text.length).mark := by
    dsimp only at h
    split at h
    · split at h
      · cases h
        exact ⟨rfl, rfl⟩
      · split at h
        · split at h
          · split at h <;> cases h
            exact ⟨rfl, rfl⟩
          · cases h
        · cases h
          exact ⟨rfl, rfl⟩
    · cases h
      exact ⟨rfl, rfl⟩
  obtain ⟨rfl, hmark⟩ := hresult
  refine leads_silent (by simp [Token.isSilent]) ?_
  rw [hmark]
  exact le_mark_take _

theorem leads_of_step {lineOpen : Bool} {found : Step} (h : step state lineOpen = some found) :
    found.Leads state.mark := by
  have htake (count : Nat) : (Step.tokens [] (state.take count)).Leads state.mark :=
    leads_silent (by simp) (le_mark_take count)
  unfold step at h
  split at h
  · obtain ⟨r, hr, rfl⟩ := Option.map_eq_some_iff.1 h
    exact leads_startLine hr
  split at h
  · obtain ⟨tokens, ht, rfl⟩ := Option.map_eq_some_iff.1 h
    exact leads_finish ht
  split at h
  · cases h
    exact htake _
  split at h
  · cases h
    exact htake _
  split at h
  · split at h <;> cases h
    · exact leads_silent (by simp [Token.isSilent]) (le_mark_take _)
    · exact htake _
  split at h
  · obtain ⟨next, hn, rfl⟩ := Option.map_eq_some_iff.1 h
    unfold continuation at hn
    split at hn <;> cases hn
    exact htake _
  split at h
  · exact leads_numeralStep h
  split at h
  · exact leads_quotedStep h
  split at h
  · obtain ⟨r, hr, rfl⟩ := Option.map_eq_some_iff.1 h
    exact leads_word hr
  · obtain ⟨r, hr, rfl⟩ := Option.map_eq_some_iff.1 h
    exact leads_sign hr

end Step

theorem outerWords_filter_append {keep : Token → Bool}
    (silent : ∀ t, keep t = false → t.isSilent = true) (depth : Nat) (tokens more : List Token) :
    outerWords depth (tokens.filter keep ++ more) = outerWords depth (tokens ++ more) := by
  induction tokens generalizing depth with
  | nil => rfl
  | cons t rest ih =>
    cases hk : keep t with
    | true =>
      rw [List.filter_cons_of_pos hk, List.cons_append, List.cons_append]
      cases t <;> simp [outerWords, ih]
    | false =>
      have ht := silent t hk
      rw [List.filter_cons_of_neg (by simp [hk]), ih, List.cons_append]
      cases t <;> simp_all [outerWords, Token.isSilent]

theorem closed_filter {tokens : List Token} (h : Closed tokens) {keep : Token → Bool}
    (silent : ∀ t, keep t = false → t.isSilent = true) : Closed (tokens.filter keep) where
  outside more := by
    have hfilter := outerWords_filter_append silent 0 tokens []
    simp only [List.append_nil] at hfilter
    rw [outerWords_filter_append silent, h.outside, hfilter]
  inside depth more := by
    rw [outerWords_filter_append silent, h.inside]

theorem closed_fields {fields : List (List Token)} (h : ∀ tokens ∈ fields, Closed tokens) :
    Closed (fields.flatMap fun tokens => .formatField :: tokens.filter (· ≠ .newline)) := by
  induction fields with
  | nil => exact closed_nil
  | cons tokens rest ih =>
    obtain ⟨hfirst, hrest⟩ := List.forall_mem_cons.1 h
    have hfilter : Closed (tokens.filter (· ≠ .newline)) :=
      closed_filter hfirst fun t ht => by simp_all [Token.isSilent]
    have hfield : Closed [Token.formatField] := closed_singleton rfl
    exact (hfield.append hfilter).append (ih hrest)

/-- The tokens from a state on are closed, and their words go on from the mark of the state. -/
theorem advances_run {done : List Token} {lineOpen : Bool} {fuel : Nat} {state : State}
    {tokens : List Token} (h : run done lineOpen fuel state = some tokens) :
    ∃ tail, tokens = done.reverse ++ tail ∧ Closed tail ∧
      Advances state.mark (outerWords 0 tail) := by
  -- the fuel also bounds the runs over the fields of a format string
  induction fuel generalizing done lineOpen state tokens with
  | zero => cases h
  | succ fuel ih =>
    unfold run at h
    obtain ⟨found, hstep, h⟩ := Option.bind_eq_some_iff.1 h
    have hleads := leads_of_step hstep
    cases found with
    | finished last =>
      cases h
      exact ⟨last, rfl, hleads.1, hleads.2 ▸ advances_nil⟩
    | tokens first next =>
      obtain ⟨tail, rfl, hclosed, hadvances⟩ := ih h
      refine ⟨first ++ tail, by simp, hleads.1.append hclosed, ?_⟩
      rw [hleads.1.outside]
      exact hleads.2 _ hadvances
    | format fields next =>
      obtain ⟨inner, hinner, h⟩ := Option.bind_eq_some_iff.1 h
      obtain ⟨tail, rfl, hclosed, hadvances⟩ := ih h
      have hfields := closed_fields fun tokens ht => by
        obtain ⟨field, _, hfield⟩ := exists_of_mem_mapM hinner ht
        obtain ⟨found, rfl, hfound, _⟩ := ih hfield
        simpa using hfound
      have hformat := closed_format hfields
      refine ⟨_, ?_, hformat.append hclosed, ?_⟩
      · simp
      · rw [hformat.outside, outerWords_format hfields]
        exact hadvances.earlier hleads

end Lexer

/-- The words of a text outside of format strings stand in the order of their marks. -/
theorem advances_of_tokens? {text : String} {tokens : List Token}
    (h : tokens? text = some tokens) : Advances ⟨1, 1⟩ (outerWords 0 tokens) := by
  unfold tokens? at h
  dsimp only at h
  split at h
  · cases h
  · obtain ⟨tail, rfl, _, hadvances⟩ := Lexer.advances_run h
    exact hadvances

end FieldGrouping.Source
