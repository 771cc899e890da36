import FieldGrouping.Source.Parse

/-!
What readers take. A reader takes tokens from the front, and of format strings it takes all or
nothing; so the words outside of format strings come one after another, and the words of a result
are among them in their order.
-/

set_option autoImplicit false

namespace FieldGrouping.Source

/-- The words outside of format strings, where `depth` of them are open. -/
def outerWords : Nat → List Token → List Word
  | _, [] => []
  | depth, .word w :: rest =>
    if depth = 0 then w :: outerWords depth rest else outerWords depth rest
  | depth, .formatStart :: rest => outerWords (depth + 1) rest
  | depth, .formatEnd :: rest => outerWords (depth - 1) rest
  | depth, _ :: rest => outerWords depth rest

/-- Tokens after which as many format strings are open as before. -/
structure Closed (taken : List Token) : Prop where
  outside : ∀ more, outerWords 0 (taken ++ more) = outerWords 0 taken ++ outerWords 0 more
  inside : ∀ depth more, outerWords (depth + 1) (taken ++ more) = outerWords (depth + 1) more

/-- Whether a token is no end of a format string. -/
def Token.isInner : Token → Bool
  | .formatStart => false
  | .formatEnd => false
  | _ => true

section Closed

theorem closed_nil : Closed [] :=
  ⟨fun _ => rfl, fun _ _ => rfl⟩

theorem closed_singleton {t : Token} (h : t.isInner = true) : Closed [t] := by
  constructor <;> intros <;> cases t <;> simp_all [outerWords, Token.isInner]

theorem Closed.append {first second : List Token} (h : Closed first) (h' : Closed second) :
    Closed (first ++ second) where
  outside more := by
    rw [List.append_assoc, h.outside, h'.outside, h.outside, List.append_assoc]
  inside depth more := by
    rw [List.append_assoc, h.inside, h'.inside]

/-- A whole format string. -/
theorem closed_format {inner : List Token} (h : Closed inner) :
    Closed (.formatStart :: (inner ++ [.formatEnd])) where
  outside more := by
    simp [outerWords, h.inside]
  inside depth more := by
    simp [outerWords, h.inside]

theorem outerWords_format {inner : List Token} (h : Closed inner) :
    outerWords 0 (.formatStart :: (inner ++ [.formatEnd])) = [] := by
  simp [outerWords, h.inside]

end Closed

namespace Parse

variable {α β : Type}

/-- A reader takes closed tokens from the front, and the words of its result are among the words
before and those it takes, in the same order. -/
def Spells (before : List Word) (words : α → List Word) (p : Parse α) : Prop :=
  ∀ ⦃tokens : List Token⦄ ⦃a : α⦄ ⦃rest : List Token⦄, p.run tokens = some (a, rest) →
    ∃ taken, tokens = taken ++ rest ∧ Closed taken ∧
      (words a).Sublist (before ++ outerWords 0 taken)

/-- A reader takes closed tokens from the front. -/
abbrev Takes (p : Parse α) : Prop :=
  Spells [] (fun _ => []) p

namespace Spells

variable {before : List Word} {words : α → List Word} {further : β → List Word}

theorem weaken {p : Parse α} (h : Spells before words p) {before' : List Word}
    {words' : α → List Word} (le : ∀ a, (words' a).Sublist (words a))
    (ge : before.Sublist before') : Spells before' words' p := by
  intro tokens a rest hp
  obtain ⟨taken, rfl, hclosed, hwords⟩ := h hp
  exact ⟨taken, rfl, hclosed, (le a).trans (hwords.trans (ge.append_right _))⟩

theorem after {p : Parse α} (h : Spells [] words p) : Spells before words p :=
  h.weaken (fun _ => List.Sublist.refl _) (List.nil_sublist _)

theorem takes {p : Parse α} (h : Spells before words p) : Takes p := by
  intro tokens a rest hp
  obtain ⟨taken, rfl, hclosed, _⟩ := h hp
  exact ⟨taken, rfl, hclosed, List.nil_sublist _⟩

theorem pure {a : α} (h : (words a).Sublist before) : Spells before words (Pure.pure a) := by
  intro tokens b rest hp
  obtain ⟨rfl, rfl⟩ : a = b ∧ tokens = rest := by simpa using hp
  exact ⟨[], rfl, closed_nil, by simpa [outerWords] using h⟩

theorem failure : Spells before words (failure : Parse α) := by
  intro tokens a rest hp
  cases hp

/-- What the first reader spells stands before what the second takes. -/
theorem thread {p : Parse α} {q : α → Parse β} (hp : Spells before words p)
    (hq : ∀ a, Spells (words a) further (q a)) : Spells before further (p >>= q) := by
  intro tokens b rest h
  simp only [StateT.run_bind, Option.bind_eq_bind, Option.bind_eq_some_iff] at h
  obtain ⟨⟨a, middle⟩, ha, hb⟩ := h
  obtain ⟨first, rfl, hfirst, hwords⟩ := hp ha
  obtain ⟨second, rfl, hsecond, hfurther⟩ := hq a hb
  refine ⟨first ++ second, by simp, hfirst.append hsecond, hfurther.trans ?_⟩
  rw [hfirst.outside, ← List.append_assoc]
  exact hwords.append_right _

theorem frame {p : Parse α} (more : List Word) (h : Spells before words p) :
    Spells (more ++ before) (fun a => more ++ words a) p := by
  intro tokens a rest hp
  obtain ⟨taken, rfl, hclosed, hwords⟩ := h hp
  refine ⟨taken, rfl, hclosed, ?_⟩
  rw [List.append_assoc]
  exact hwords.append_left more

theorem bind {p : Parse α} {q : α → Parse β} (hp : Spells [] words p)
    (hq : ∀ a, Spells (before ++ words a) further (q a)) : Spells before further (p >>= q) := by
  have hframe := hp.frame before
  rw [List.append_nil] at hframe
  exact hframe.thread hq

theorem skip {p : Parse α} {q : α → Parse β} (hp : Takes p)
    (hq : ∀ a, Spells before further (q a)) : Spells before further (p >>= q) := by
  refine hp.bind fun a => ?_
  rw [List.append_nil]
  exact hq a

theorem seqRight {p : Parse α} {q : Parse β} (hp : Takes p) (hq : Spells before further q) :
    Spells before further (p *> q) :=
  seqRight_eq_bind p q ▸ skip hp fun _ => hq

theorem map {p : Parse α} {f : α → β} (h : Spells before (fun a => further (f a)) p) :
    Spells before further (f <$> p) :=
  map_eq_pure_bind f p ▸ thread h fun _ => pure (List.Sublist.refl _)

theorem orElse {p q : Parse α} (hp : Spells before words p) (hq : Spells before words q) :
    Spells before words (p <|> q) := by
  intro tokens a rest h
  have hor : (p <|> q).run tokens = (p.run tokens <|> q.run tokens) := rfl
  rw [hor] at h
  cases hrun : p.run tokens with
  | none =>
    rw [hrun] at h
    exact hq (by simpa using h)
  | some result =>
    rw [hrun] at h
    exact hp (by simpa [hrun] using h)

theorem ite {condition : Prop} [Decidable condition] {p q : Parse α} (hp : Spells before words p)
    (hq : Spells before words q) : Spells before words (if condition then p else q) := by
  split
  · exact hp
  · exact hq

theorem branch {condition : Parse Bool} {p q : Parse α} (hcondition : Takes condition)
    (hp : Spells before words p) (hq : Spells before words q) :
    Spells before words (do if ← condition then p else q) :=
  skip hcondition fun _ => ite hp hq

theorem get {q : List Token → Parse β} (hq : ∀ tokens, Spells before further (q tokens)) :
    Spells before further (MonadState.get >>= q) := by
  intro tokens b rest h
  exact hq tokens h

end Spells

theorem takes_pure (a : α) : Takes (pure a) :=
  .pure (List.nil_sublist _)

section Tokens

theorem run_token (result : Token → Option α) (tokens : List Token) :
    (token result).run tokens =
      match tokens with
      | [] => none
      | t :: rest => (result t).map (·, rest) := by
  cases tokens with
  | nil => rfl
  | cons t rest => cases h : result t <;> simp [token, h, StateT.run_bind]

theorem spells_token {words : α → List Word} {result : Token → Option α}
    (inner : ∀ t a, result t = some a → t.isInner = true ∧ (words a).Sublist (outerWords 0 [t])) :
    Spells [] words (token result) := by
  intro tokens a rest h
  rw [run_token] at h
  cases tokens with
  | nil => cases h
  | cons t others =>
    obtain ⟨b, hb, heq⟩ := Option.map_eq_some_iff.1 h
    obtain ⟨rfl, rfl⟩ : b = a ∧ others = rest := by simpa using heq
    obtain ⟨hinner, hwords⟩ := inner t b hb
    exact ⟨[t], rfl, closed_singleton hinner, hwords⟩

theorem takes_token {result : Token → Option α}
    (inner : ∀ t a, result t = some a → t.isInner = true) : Takes (token result) :=
  spells_token fun t a h => ⟨inner t a h, List.nil_sublist _⟩

theorem takes_exactly {t : Token} (h : t.isInner = true) : Takes (exactly t) := by
  refine takes_token fun t' a ht => ?_
  obtain rfl : t' = t := by simpa using ht
  exact h

theorem takes_sign (text : String) : Takes (sign text) :=
  takes_exactly rfl

theorem takes_signOf (texts : List String) : Takes (signOf texts) := by
  refine takes_token fun t a ht => ?_
  cases t <;> simp_all [Token.isInner]

theorem takes_word (text : String) : Takes (word text) := by
  refine takes_token fun t a ht => ?_
  cases t <;> simp_all [Token.isInner]

theorem spells_name : Spells [] (fun w => [w]) name := by
  refine spells_token fun t w ht => ?_
  cases t <;> simp_all [Token.isInner, outerWords]

theorem takes_name : Takes name :=
  spells_name.takes

theorem run_peek (q : Option Token → Parse α) (tokens : List Token) :
    (peek >>= q).run tokens = (q tokens.head?).run tokens :=
  rfl

theorem takes_peek : Takes peek :=
  .get fun _ => takes_pure _

theorem takes_atSign (text : String) : Takes (atSign text) :=
  .skip takes_peek fun _ => takes_pure _

theorem takes_atWord (text : String) : Takes (atWord text) := by
  refine .skip takes_peek fun next => ?_
  split <;> exact takes_pure _

theorem takes_require (condition : Bool) : Takes (require condition) :=
  .ite (takes_pure _) .failure

theorem run_exactly {t : Token} {tokens rest : List Token} {a : Unit}
    (h : (exactly t).run tokens = some (a, rest)) : tokens = t :: rest := by
  unfold exactly at h
  rw [run_token] at h
  cases tokens with
  | nil => cases h
  | cons first others =>
    by_cases ht : first = t
    · simpa [ht] using h
    · simp [ht] at h

/-- A format string around what a reader takes. -/
theorem spells_format {before : List Word} {words : β → List Word} {p : Parse α} (hp : Takes p)
    {b : β} (h : (words b).Sublist before) :
    Spells before words (do
      exactly .formatStart
      let _ ← p
      exactly .formatEnd
      return b) := by
  intro tokens b' rest hrun
  simp only [StateT.run_bind, Option.bind_eq_bind, Option.bind_eq_some_iff] at hrun
  obtain ⟨⟨_, opened⟩, hstart, ⟨_, closing⟩, hin, ⟨_, left⟩, hend, hpure⟩ := hrun
  obtain ⟨rfl, rfl⟩ : b = b' ∧ left = rest := by simpa using hpure
  obtain rfl := run_exactly hstart
  obtain ⟨taken, rfl, hclosed, _⟩ := hp hin
  obtain rfl := run_exactly hend
  refine ⟨.formatStart :: (taken ++ [.formatEnd]), by simp, closed_format hclosed, ?_⟩
  rw [outerWords_format hclosed, List.append_nil]
  exact h

end Tokens

section Repetition

variable {before : List Word} {words : α → List Word} {p : Parse α}

theorem spells_option (h : Spells before words p) :
    Spells before (fun found => (found.map words).getD before) (option p) :=
  .orElse (.map (f := some) h) (.pure (List.Sublist.refl _))

theorem takes_accepts (h : Takes p) : Takes (accepts p) :=
  .orElse h.map (takes_pure _)

theorem spells_manyWithin (h : Spells [] words p) (bound : List Token) :
    Spells [] (·.flatMap words) (manyWithin p bound) := by
  induction bound with
  | nil => exact .pure (List.nil_sublist _)
  | cons _ bound ih =>
    refine .bind (spells_option h) fun found => ?_
    cases found with
    | none => exact .pure (List.nil_sublist _)
    | some a => exact .bind ih fun others => .pure (by simp)

theorem spells_many (h : Spells [] words p) : Spells [] (·.flatMap words) (many p) :=
  .get (spells_manyWithin h)

theorem spells_many1 (h : Spells [] words p) : Spells [] (·.flatMap words) (many1 p) :=
  .bind h fun _ => .bind (spells_many h) fun _ => .pure (by simp)

theorem spells_sepBy {separator : Parse β} (h : Spells [] words p) (between : Takes separator) :
    Spells [] (·.flatMap words) (sepBy p separator) :=
  .bind h fun _ => .bind (spells_many (.seqRight between h)) fun _ => .pure (by simp)

theorem spells_commaSeparated (h : Spells [] words p) :
    Spells [] (fun found => found.1.flatMap words) (commaSeparated p) :=
  .bind (spells_sepBy h (takes_sign ",")) fun _ =>
    .skip (takes_accepts (takes_sign ",")) fun _ => .pure (by simp)

theorem spells_commaList (h : Spells [] words p) : Spells [] (·.flatMap words) (commaList p) :=
  .bind (spells_commaSeparated h) fun _ => .pure (by simp)

end Repetition

end Parse

end FieldGrouping.Source
