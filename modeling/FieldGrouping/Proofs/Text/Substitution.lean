import FieldGrouping.Text.SnakeCase

/-!
Patterns and what it is to replace their matches. A pattern is two groups of pieces. It is read at
the front of a text with every run as long as possible first, and shorter only where the pieces
behind it do not fit. Matches are replaced from left to right, each by its two groups with an
underscore between them, and the search goes on behind the match.
-/

set_option autoImplicit false

namespace FieldGrouping.Text

/-- One character of a class, or a run of them. -/
inductive Piece where
  | one (accepts : Char → Bool)
  | run (accepts : Char → Bool)

/-- The ways to read a run, longest first, each with the text behind it. -/
def runWays (accepts : Char → Bool) : List Char → List (List Char × List Char)
  | [] => []
  | c :: cs =>
    if accepts c then (runWays accepts cs).map (fun way => (c :: way.1, way.2)) ++ [([c], cs)]
    else []

def Piece.ways : Piece → List Char → List (List Char × List Char)
  | .one _, [] => []
  | .one accepts, c :: cs => if accepts c then [([c], cs)] else []
  | .run accepts, cs => runWays accepts cs

/-- The ways to read pieces one behind the other; those of the first piece are tried in turn. -/
def ways : List Piece → List Char → List (List Char × List Char)
  | [], cs => [([], cs)]
  | piece :: pieces, cs =>
    (piece.ways cs).flatMap fun way =>
      (ways pieces way.2).map fun next => (way.1 ++ next.1, next.2)

structure Pattern where
  before : List Piece
  after : List Piece

namespace Pattern

/-- What the two groups can read at the front of a text, in the order in which it is tried. -/
def allMatches (pattern : Pattern) (cs : List Char) : List (List Char × List Char) :=
  (ways pattern.before cs).flatMap fun way =>
    (ways pattern.after way.2).map fun next => (way.1, next.1)

def firstMatch? (pattern : Pattern) (cs : List Char) : Option (List Char × List Char) :=
  (pattern.allMatches cs).head?

/-- Replaces matches, all of which have some character; the first `skip` characters were matched
before. -/
def replaceFrom (pattern : Pattern) : Nat → List Char → List Char
  | _, [] => []
  | skip + 1, _ :: cs => pattern.replaceFrom skip cs
  | 0, c :: cs =>
    match pattern.firstMatch? (c :: cs) with
    | none => c :: pattern.replaceFrom 0 cs
    | some (before, after) =>
      before ++ '_' :: after ++ pattern.replaceFrom (before.length + after.length - 1) cs

def replace (pattern : Pattern) (cs : List Char) : List Char :=
  pattern.replaceFrom 0 cs

/-- A pass replaces the matches of a pattern if it does so with a match at the front and goes on one
character where there is none. -/
theorem replace_eq {pattern : Pattern} {pass : List Char → List Char} (nil : pass [] = [])
    (none : ∀ c cs, pattern.firstMatch? (c :: cs) = none → pass (c :: cs) = c :: pass cs)
    (some : ∀ cs before after, pattern.firstMatch? cs = some (before, after) →
      ∃ rest, cs = before ++ after ++ rest ∧ before ≠ [] ∧
        pass cs = before ++ '_' :: after ++ pass rest) (cs : List Char) :
    pattern.replace cs = pass cs := by
  suffices ∀ skip, pattern.replaceFrom skip cs = pass (cs.drop skip) from this 0
  induction cs with
  | nil => simp [replaceFrom, nil]
  | cons c cs ih =>
    intro skip
    cases skip with
    | succ skip => rw [replaceFrom, ih, List.drop_succ_cons]
    | zero =>
      rw [List.drop_zero, replaceFrom]
      cases hmatch : pattern.firstMatch? (c :: cs) with
      | none =>
        simp only [ih, List.drop_zero]
        exact (none c cs hmatch).symm
      | some groups =>
        obtain ⟨before, after⟩ := groups
        obtain ⟨rest, hcs, hne, hpass⟩ := some _ before after hmatch
        obtain ⟨first, before, rfl⟩ := List.exists_cons_of_ne_nil hne
        -- The first character is at hand, so one less of the match is to be skipped.
        have hrest : cs.drop ((first :: before).length + after.length - 1) = rest := by
          have htail : cs = (before ++ after) ++ rest := by simpa using (List.cons.inj hcs).2
          have hlength : (first :: before).length + after.length - 1 = (before ++ after).length := by
            simp only [List.length_cons, List.length_append]
            omega
          rw [hlength, htail, List.drop_left]
        simp only [ih, hrest, hpass]

end Pattern

/-- An acronym and the capital and small letter that begin the word after it. -/
def acronymPattern : Pattern :=
  ⟨[.run isAcronymChar], [.one isCapital, .one isSmall]⟩

/-- The end of a word and the capital after it. -/
def wordPattern : Pattern :=
  ⟨[.one fun c => isSmall c || isDigit c], [.one isCapital]⟩

/-- The capital and the small letter at the front of a text. -/
def wordStart? : List Char → Option (List Char)
  | d :: e :: _ => if isCapital d && isSmall e then some [d, e] else none
  | _ => none

theorem ways_wordStart (cs : List Char) :
    ((ways acronymPattern.after cs).map (·.1)).head? = wordStart? cs := by
  unfold wordStart?
  split
  · next d e cs =>
    by_cases hd : isCapital d <;> by_cases he : isSmall e <;>
      simp [acronymPattern, ways, Piece.ways, hd, he]
  · next hshort =>
    match cs with
    | [] => simp [acronymPattern, ways, Piece.ways]
    | [d] => by_cases hd : isCapital d <;> simp [acronymPattern, ways, Piece.ways, hd]
    | d :: e :: cs => exact absurd rfl (hshort d e cs)

theorem allMatches_acronymPattern_cons {c : Char} (hc : isAcronymChar c) (cs : List Char) :
    acronymPattern.allMatches (c :: cs) =
      (acronymPattern.allMatches cs).map (fun groups => (c :: groups.1, groups.2)) ++
        (ways acronymPattern.after cs).map fun next => ([c], next.1) := by
  have hruns (cs : List Char) : ways acronymPattern.before cs = runWays isAcronymChar cs := by
    simp [acronymPattern, ways, Piece.ways]
  simp only [Pattern.allMatches, hruns, runWays, hc, if_true, List.flatMap_append,
    List.flatMap_map, List.map_flatMap, List.map_map, List.flatMap_cons, List.flatMap_nil,
    List.append_nil]
  rfl

theorem firstMatch?_acronymPattern_nil : acronymPattern.firstMatch? [] = none := rfl

/-- A run goes on as long as what is behind it still matches. -/
theorem firstMatch?_acronymPattern_cons (c : Char) (cs : List Char) :
    acronymPattern.firstMatch? (c :: cs) =
      if isAcronymChar c then
        ((acronymPattern.firstMatch? cs).map fun groups => (c :: groups.1, groups.2)).or
          ((wordStart? cs).map fun after => ([c], after))
      else none := by
  by_cases hc : isAcronymChar c
  · rw [if_pos hc, Pattern.firstMatch?, allMatches_acronymPattern_cons hc, List.head?_append,
      List.head?_map, List.head?_map, ← ways_wordStart, List.head?_map, Option.map_map]
    rfl
  · rw [if_neg hc]
    simp [Pattern.firstMatch?, Pattern.allMatches, acronymPattern, ways, Piece.ways, runWays, hc]

theorem firstMatch?_wordPattern (cs : List Char) :
    wordPattern.firstMatch? cs =
      match cs with
      | c :: d :: _ => if (isSmall c || isDigit c) && isCapital d then some ([c], [d]) else none
      | _ => none := by
  split
  · next c d cs =>
    by_cases hc : isSmall c || isDigit c <;> by_cases hd : isCapital d <;>
      simp [wordPattern, Pattern.firstMatch?, Pattern.allMatches, ways, Piece.ways, hc, hd]
  · next hshort =>
    match cs with
    | [] => simp [wordPattern, Pattern.firstMatch?, Pattern.allMatches, ways, Piece.ways]
    | [c] =>
      by_cases hc : isSmall c || isDigit c <;>
        simp [wordPattern, Pattern.firstMatch?, Pattern.allMatches, ways, Piece.ways, hc]
    | c :: d :: cs => exact absurd rfl (hshort c d cs)

end FieldGrouping.Text
