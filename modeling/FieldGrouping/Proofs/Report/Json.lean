import FieldGrouping.Report.Json
import Mathlib.Logic.Function.Basic

/-!
A JSON text says one document. The text of a value can be told from that of any other value,
whatever follows it, as long as it does not go on with a number; and it holds no control character
but the ends of its lines.
-/

set_option autoImplicit false

namespace FieldGrouping.Report

/-! ### Reading in one way -/

/-- Characters of numbers. -/
def isNumeral (c : Char) : Bool :=
  c.isDigit || c == '-'

/-- A text that cannot go on with a number before it. -/
def Stops (rest : List Char) : Prop :=
  ∀ c ∈ rest.head?, isNumeral c = false

/-- What is written for a value is written for no other one, whatever follows. -/
def ReadsAs {α : Type} (write : α → String) (a : α) : Prop :=
  ∀ b rest rest', Stops rest → Stops rest' →
    (write a).toList ++ rest = (write b).toList ++ rest' → a = b ∧ rest = rest'

theorem append_inj_of_stops {xs ys rest rest' : List Char} (hx : ∀ c ∈ xs, isNumeral c = true)
    (hy : ∀ c ∈ ys, isNumeral c = true) (stops : Stops rest) (stops' : Stops rest')
    (h : xs ++ rest = ys ++ rest') : xs = ys ∧ rest = rest' := by
  induction xs generalizing ys with
  | nil =>
    cases ys with
    | nil => exact ⟨rfl, h⟩
    | cons y ys =>
      obtain rfl : rest = y :: ys ++ rest' := h
      have hn := stops y rfl
      rw [hy y (by simp)] at hn
      cases hn
  | cons x xs ih =>
    cases ys with
    | nil =>
      obtain rfl : x :: xs ++ rest = rest' := h
      have hn := stops' x rfl
      rw [hx x (by simp)] at hn
      cases hn
    | cons y ys =>
      obtain ⟨rfl, htail⟩ : x = y ∧ xs ++ rest = ys ++ rest' := by simpa using h
      obtain ⟨rfl, rfl⟩ := ih (fun c hc => hx c (by simp [hc]))
        (fun c hc => hy c (by simp [hc])) htail
      exact ⟨rfl, rfl⟩

/-! ### Numbers -/

section Number

theorem isNumeral_of_mem_repr {n : Nat} {c : Char} (h : c ∈ n.repr.toList) :
    isNumeral c = true := by
  rw [Nat.repr_eq_ofList_toDigits, String.toList_ofList] at h
  simp [isNumeral, Nat.isDigit_of_mem_toDigits (by decide) (by decide) h]

theorem isNumeral_of_mem_toString {n : Int} {c : Char} (h : c ∈ (toString n).toList) :
    isNumeral c = true := by
  rw [Int.toString_eq_repr, Int.repr_eq_if] at h
  split at h
  · exact isNumeral_of_mem_repr h
  · rw [String.toList_append, List.mem_append] at h
    rcases h with h | h
    · obtain rfl : c = '-' := by simpa using h
      rfl
    · exact isNumeral_of_mem_repr h

theorem toList_toString_ne_nil (n : Int) : (toString n).toList ≠ [] := by
  rw [Int.toString_eq_repr, Int.repr_eq_if]
  split
  · simp
  · simp

theorem natRepr_injective : Function.Injective Nat.repr := by
  intro n m h
  rw [Nat.repr_eq_ofList_toDigits, Nat.repr_eq_ofList_toDigits, String.ofList_inj] at h
  simpa [Nat.ofDigitChars_ten_toDigits] using congrArg (Nat.ofDigitChars 10 · 0) h

/-- A digit in front tells a number from a negative one. -/
theorem natRepr_ne_negative (n m : Nat) : n.repr ≠ "-" ++ m.repr := by
  intro h
  have hminus : '-' ∈ n.repr.toList := by simp [h]
  rw [Nat.repr_eq_ofList_toDigits, String.toList_ofList] at hminus
  exact absurd (Nat.isDigit_of_mem_toDigits (by decide) (by decide) hminus) (by decide)

theorem intRepr_injective : Function.Injective Int.repr := by
  intro n m h
  rw [Int.repr_eq_if, Int.repr_eq_if] at h
  split at h <;> split at h
  · have := natRepr_injective h
    omega
  · exact absurd h (natRepr_ne_negative _ _)
  · exact absurd h.symm (natRepr_ne_negative _ _)
  · have := natRepr_injective (String.append_right_inj _ |>.1 h)
    omega

theorem readsAs_number (n : Int) : ReadsAs (toString : Int → String) n := by
  intro m rest rest' stops stops' h
  obtain ⟨htext, hrest⟩ := append_inj_of_stops (fun c => isNumeral_of_mem_toString)
    (fun c => isNumeral_of_mem_toString) stops stops' h
  rw [String.toList_inj, Int.toString_eq_repr, Int.toString_eq_repr] at htext
  exact ⟨intRepr_injective htext, hrest⟩

end Number

namespace Json

/-! ### Texts -/

section String

/-- The three ways in which a character is written. -/
theorem escapeChar_cases (c : Char) :
    (∃ letter, (c, letter) ∈ letterEscapes ∧ escapeChar c = ['\\', letter]) ∨
    (c.toNat < 0x20 ∧ escapeChar c = '\\' :: 'u' :: Text.hexDigits 4 c.toNat) ∨
    (c ≠ '"' ∧ c ≠ '\\' ∧ 0x20 ≤ c.toNat ∧ escapeChar c = [c]) := by
  unfold escapeChar
  cases h : letterEscapes.lookup c with
  | some letter =>
    obtain ⟨before, after, heq, _⟩ := List.lookup_eq_some_iff.1 h
    exact .inl ⟨letter, by simp [heq], rfl⟩
  | none =>
    by_cases hlow : c.toNat < 0x20
    · exact .inr (.inl ⟨hlow, if_pos hlow⟩)
    · refine .inr (.inr ⟨?_, ?_, Nat.le_of_not_lt hlow, if_neg hlow⟩)
      · rintro rfl
        simp [letterEscapes] at h
      · rintro rfl
        simp [letterEscapes] at h

theorem length_hexDigits (width n : Nat) : (Text.hexDigits width n).length = width := by
  induction width generalizing n with
  | zero => rfl
  | succ width ih => simp [Text.hexDigits, ih]

theorem hexDigits_inj_of_lt {m n : Nat} (hm : m < 0x20) (hn : n < 0x20)
    (h : Text.hexDigits 4 m = Text.hexDigits 4 n) : m = n := by
  have hall : ∀ m < 0x20, ∀ n < 0x20, Text.hexDigits 4 m = Text.hexDigits 4 n → m = n := by
    decide +kernel
  exact hall m hm n hn h

theorem letterEscapes_inj {c d letter : Char} (hc : (c, letter) ∈ letterEscapes)
    (hd : (d, letter) ∈ letterEscapes) : c = d := by
  have hall : ∀ e ∈ letterEscapes, ∀ e' ∈ letterEscapes, e.2 = e'.2 → e.1 = e'.1 := by
    decide
  exact hall _ hc _ hd rfl

theorem letter_ne_u {c letter : Char} (h : (c, letter) ∈ letterEscapes) : letter ≠ 'u' := by
  have hall : ∀ e ∈ letterEscapes, e.2 ≠ 'u' := by decide
  exact hall _ h

theorem escapeChar_append_inj {c d : Char} {x y : List Char}
    (h : escapeChar c ++ x = escapeChar d ++ y) : c = d ∧ x = y := by
  rcases escapeChar_cases c with ⟨l, hl, hc⟩ | ⟨hlow, hc⟩ | ⟨_, hback, _, hc⟩ <;>
    rcases escapeChar_cases d with ⟨k, hk, hd⟩ | ⟨hlow', hd⟩ | ⟨_, hback', _, hd⟩ <;>
    rw [hc, hd] at h
  · obtain ⟨rfl, rfl⟩ : l = k ∧ x = y := by simpa using h
    exact ⟨letterEscapes_inj hl hk, rfl⟩
  · exact absurd (by simpa using h : l = 'u' ∧ _).1 (letter_ne_u hl)
  · exact absurd (by simpa using (List.cons.inj h).1.symm) hback'
  · exact absurd (by simpa using h.symm : k = 'u' ∧ _).1 (letter_ne_u hk)
  · obtain ⟨hdigits, hrest⟩ := List.append_inj (by simpa using h :
      Text.hexDigits 4 c.toNat ++ x = Text.hexDigits 4 d.toNat ++ y) (by simp [length_hexDigits])
    exact ⟨Char.toNat_inj.1 (hexDigits_inj_of_lt hlow hlow' hdigits), hrest⟩
  · exact absurd (by simpa using (List.cons.inj h).1.symm) hback'
  · exact absurd (by simpa using (List.cons.inj h).1) hback
  · exact absurd (by simpa using (List.cons.inj h).1) hback
  · simpa using h

theorem head?_escapeChar_ne (c : Char) (rest : List Char) :
    (escapeChar c ++ rest).head? ≠ some '"' := by
  rcases escapeChar_cases c with ⟨l, _, hc⟩ | ⟨_, hc⟩ | ⟨hquote, _, _, hc⟩ <;> simp_all

theorem readsAs_string (s : String) : ReadsAs string s := by
  have hbody (cs ds rest rest' : List Char)
      (h : cs.flatMap escapeChar ++ '"' :: rest = ds.flatMap escapeChar ++ '"' :: rest') :
      cs = ds ∧ rest = rest' := by
    induction cs generalizing ds with
    | nil =>
      cases ds with
      | nil => simpa using h
      | cons d ds =>
        have hhead := head?_escapeChar_ne d (ds.flatMap escapeChar ++ '"' :: rest')
        rw [← List.append_assoc, ← List.flatMap_cons, ← h] at hhead
        simp at hhead
    | cons c cs ih =>
      cases ds with
      | nil =>
        have hhead := head?_escapeChar_ne c (cs.flatMap escapeChar ++ '"' :: rest)
        rw [← List.append_assoc, ← List.flatMap_cons, h] at hhead
        simp at hhead
      | cons d ds =>
        rw [List.flatMap_cons, List.flatMap_cons, List.append_assoc, List.append_assoc] at h
        obtain ⟨rfl, htail⟩ := escapeChar_append_inj h
        obtain ⟨rfl, rfl⟩ := ih ds htail
        exact ⟨rfl, rfl⟩
  intro t rest rest' _ _ h
  obtain ⟨htext, hrest⟩ := hbody s.toList t.toList rest rest' (by simpa [string] using h)
  exact ⟨String.toList_inj.1 htext, hrest⟩

end String

/-! ### Lists and objects -/

section Enclosed

theorem toList_lineStart (level : Nat) :
    (lineStart level).toList = '\n' :: List.replicate (2 * level) ' ' := by
  simp [lineStart]

/-- What stands between the brackets: the first part, and the others after commas. -/
theorem toList_enclose_cons (opening closing : String) (level : Nat) (first : String)
    (others : List String) :
    (enclose opening closing level (first :: others)).toList =
      opening.toList ++ (lineStart (level + 1)).toList ++ first.toList ++
        others.flatMap (fun part => ',' :: (lineStart (level + 1)).toList ++ part.toList) ++
        (lineStart level).toList ++ closing.toList := by
  have hparts : (("," ++ lineStart (level + 1)).intercalate (first :: others)).toList =
      first.toList ++
        others.flatMap (fun part => ',' :: (lineStart (level + 1)).toList ++ part.toList) := by
    induction others generalizing first with
    | nil => simp
    | cons second others ih =>
      rw [String.intercalate_cons_cons, String.toList_append, ih]
      simp
  simp [enclose, hparts]

variable {α : Type} {write : α → String} {start : List Char}

theorem stops_tail (xs : List α) (rest : List Char) :
    Stops (xs.flatMap (fun x => ',' :: start ++ (write x).toList) ++ '\n' :: rest) := by
  cases xs <;> simp [Stops, isNumeral]

/-- The parts after the first one, up to the end of a line. -/
theorem tail_append_inj {xs ys : List α} {rest rest' : List Char}
    (each : ∀ x ∈ xs, ReadsAs write x)
    (h : xs.flatMap (fun x => ',' :: start ++ (write x).toList) ++ '\n' :: rest =
      ys.flatMap (fun y => ',' :: start ++ (write y).toList) ++ '\n' :: rest') :
    xs = ys ∧ rest = rest' := by
  induction xs generalizing ys with
  | nil =>
    cases ys with
    | nil => simpa using h
    | cons y ys => simp at h
  | cons x xs ih =>
    cases ys with
    | nil => simp at h
    | cons y ys =>
      obtain ⟨hx, hxs⟩ := List.forall_mem_cons.1 each
      simp only [List.flatMap_cons, List.append_assoc, List.cons_append, List.cons.injEq, true_and,
        List.append_cancel_left_eq] at h
      obtain ⟨rfl, htail⟩ := hx y _ _ (stops_tail xs rest) (stops_tail ys rest') h
      obtain ⟨rfl, rfl⟩ := ih hxs htail
      exact ⟨rfl, rfl⟩

theorem readsAs_enclose (opening closing : String) (close : Char) (level : Nat)
    (hclosing : closing.toList = [close]) (ne : close ≠ '\n') {xs : List α}
    (each : ∀ x ∈ xs, ReadsAs write x) :
    ReadsAs (fun xs => enclose opening closing level (xs.map write)) xs := by
  intro ys rest rest' _ _ h
  cases xs with
  | nil =>
    cases ys with
    | nil => simpa [enclose] using h
    | cons y ys =>
      simp only [List.map_nil, List.map_cons, toList_enclose_cons] at h
      simp [enclose, hclosing, toList_lineStart, ne] at h
  | cons x xs =>
    cases ys with
    | nil =>
      simp only [List.map_nil, List.map_cons, toList_enclose_cons] at h
      simp [enclose, hclosing, toList_lineStart, ne.symm] at h
    | cons y ys =>
      obtain ⟨hx, hxs⟩ := List.forall_mem_cons.1 each
      simp only [List.map_cons, toList_enclose_cons, List.append_assoc, List.append_cancel_left_eq,
        List.flatMap_map, toList_lineStart level, List.cons_append] at h
      obtain ⟨rfl, htail⟩ := hx y _ _ (stops_tail xs _) (stops_tail ys _) h
      obtain ⟨rfl, hend⟩ := tail_append_inj hxs htail
      exact ⟨rfl, by simpa using hend⟩

end Enclosed

/-! ### Documents -/

section Document

theorem indentedItems_eq (level : Nat) (items : List Json) :
    indentedItems level items = items.map (·.indented level) := by
  induction items with
  | nil => rfl
  | cons item rest ih => simp [indentedItems, ih]

/-- A member of an object as it is written. -/
def indentedMember (level : Nat) (member : String × Json) : String :=
  string member.1 ++ ": " ++ member.2.indented level

theorem indentedMembers_eq (level : Nat) (members : List (String × Json)) :
    indentedMembers level members = members.map (indentedMember level) := by
  induction members with
  | nil => rfl
  | cons member rest ih => simp [indentedMembers, indentedMember, ih]

/-- The kind of a value, by the character that it begins with. All numbers are of one kind. -/
def kind : Json → Char
  | .number _ => '0'
  | .text _ => '"'
  | .list _ => '['
  | .object _ => '\x7b'

/-- The kind of the values that begin with a character. -/
def kindOf (c : Char) : Char :=
  if isNumeral c then '0' else c

theorem isPrefix_enclose (opening closing : String) (level : Nat) (parts : List String) :
    opening.toList <+: (enclose opening closing level parts).toList := by
  unfold enclose
  split <;> simp [List.append_assoc]

theorem exists_kindOf_eq (level : Nat) (a : Json) :
    ∃ c cs, (a.indented level).toList = c :: cs ∧ kindOf c = a.kind := by
  cases a with
  | number n =>
    obtain ⟨c, cs, hcs⟩ := List.exists_cons_of_ne_nil (toList_toString_ne_nil n)
    have hc : isNumeral c = true := isNumeral_of_mem_toString (by rw [hcs]; simp)
    exact ⟨c, cs, by simpa [indented] using hcs, by simp [kindOf, hc, kind]⟩
  | text s => exact ⟨'"', s.toList.flatMap escapeChar ++ ['"'], by simp [indented, string], rfl⟩
  | list items =>
    obtain ⟨cs, hcs⟩ := isPrefix_enclose "[" "]" level (indentedItems (level + 1) items)
    exact ⟨'[', cs, by simpa [indented] using hcs.symm, rfl⟩
  | object members =>
    obtain ⟨cs, hcs⟩ :=
      isPrefix_enclose "\x7b" "\x7d" level (indentedMembers (level + 1) members)
    exact ⟨'\x7b', cs, by simpa [indented] using hcs.symm, rfl⟩

theorem kind_eq_of_append {level : Nat} {a b : Json} {rest rest' : List Char}
    (h : (a.indented level).toList ++ rest = (b.indented level).toList ++ rest') :
    a.kind = b.kind := by
  obtain ⟨c, cs, ha, hc⟩ := exists_kindOf_eq level a
  obtain ⟨d, ds, hb, hd⟩ := exists_kindOf_eq level b
  rw [ha, hb] at h
  rw [← hc, ← hd, (List.cons.inj h).1]

theorem readsAs_member {level : Nat} {member : String × Json}
    (value : ReadsAs (indented level) member.2) : ReadsAs (indentedMember level) member := by
  intro other rest rest' stops stops' h
  simp only [indentedMember, String.toList_append, List.append_assoc] at h
  have hcolon (tail : List Char) : Stops (": ".toList ++ tail) := by simp [Stops, isNumeral]
  obtain ⟨hkey, hrest⟩ := readsAs_string _ _ _ _ (hcolon _) (hcolon _) h
  rw [List.append_cancel_left_eq] at hrest
  obtain ⟨hvalue, hrest⟩ := value _ _ _ stops stops' hrest
  exact ⟨Prod.ext hkey hvalue, hrest⟩

mutual

/-- The text of a value is the text of no other one. -/
theorem readsAs_indented (level : Nat) (a : Json) : ReadsAs (indented level) a := by
  intro b rest rest' stops stops' h
  have hkind := kind_eq_of_append h
  cases a with
  | number n =>
    cases b with
    | number m =>
      simp only [indented] at h
      obtain ⟨rfl, hrest⟩ := readsAs_number n m rest rest' stops stops' h
      exact ⟨rfl, hrest⟩
    | text _ | list _ | object _ => simp [kind] at hkind
  | text s =>
    cases b with
    | text t =>
      simp only [indented] at h
      obtain ⟨rfl, hrest⟩ := readsAs_string s t rest rest' stops stops' h
      exact ⟨rfl, hrest⟩
    | number _ | list _ | object _ => simp [kind] at hkind
  | list items =>
    cases b with
    | list others =>
      simp only [indented, indentedItems_eq] at h
      obtain ⟨rfl, hrest⟩ := readsAs_enclose "[" "]" ']' level rfl (by decide)
        (readsAs_items (level + 1) items) others rest rest' stops stops' h
      exact ⟨rfl, hrest⟩
    | number _ | text _ | object _ => simp [kind] at hkind
  | object members =>
    cases b with
    | object others =>
      simp only [indented, indentedMembers_eq] at h
      obtain ⟨rfl, hrest⟩ := readsAs_enclose "\x7b" "\x7d" '\x7d' level rfl (by decide)
        (readsAs_members (level + 1) members) others rest rest' stops stops' h
      exact ⟨rfl, hrest⟩
    | number _ | text _ | list _ => simp [kind] at hkind

theorem readsAs_items (level : Nat) (items : List Json) :
    ∀ item ∈ items, ReadsAs (indented level) item := by
  match items with
  | [] => simp
  | item :: rest =>
    exact List.forall_mem_cons.2 ⟨readsAs_indented level item, readsAs_items level rest⟩

theorem readsAs_members (level : Nat) (members : List (String × Json)) :
    ∀ member ∈ members, ReadsAs (indentedMember level) member := by
  match members with
  | [] => simp
  | (key, value) :: rest =>
    exact List.forall_mem_cons.2
      ⟨readsAs_member (readsAs_indented level value), readsAs_members level rest⟩

end

theorem indented_injective {level : Nat} {a b : Json}
    (h : a.indented level = b.indented level) : a = b :=
  (readsAs_indented level a b [] [] (by simp [Stops]) (by simp [Stops]) (by rw [h])).1

end Document

/-! ### Control characters -/

/-- A text without control characters but the ends of lines. -/
def Plain (text : String) : Prop :=
  ∀ c ∈ text.toList, c = '\n' ∨ 0x20 ≤ c.toNat

section Plain

theorem plain_append {s t : String} (hs : Plain s) (ht : Plain t) : Plain (s ++ t) := by
  unfold Plain
  rw [String.toList_append]
  exact List.forall_mem_append.2 ⟨hs, ht⟩

theorem plain_intercalate {separator : String} (hs : Plain separator) {parts : List String}
    (each : ∀ part ∈ parts, Plain part) : Plain (separator.intercalate parts) := by
  induction parts with
  | nil => simp [Plain]
  | cons first others ih =>
    obtain ⟨hfirst, hothers⟩ := List.forall_mem_cons.1 each
    cases others with
    | nil => simpa using hfirst
    | cons second others =>
      rw [String.intercalate_cons_cons]
      exact plain_append (plain_append hfirst hs) (ih hothers)

theorem plain_number (n : Int) : Plain (toString n) := by
  intro c hc
  have hn := isNumeral_of_mem_toString hc
  simp only [isNumeral, Char.isDigit, Bool.or_eq_true, Bool.and_eq_true, decide_eq_true_eq,
    beq_iff_eq] at hn
  rcases hn with ⟨hdigit, _⟩ | rfl
  · exact .inr (Nat.le_trans (by decide) hdigit)
  · decide

theorem plain_escapeChar (c : Char) : ∀ d ∈ escapeChar c, d = '\n' ∨ 0x20 ≤ d.toNat := by
  rcases escapeChar_cases c with ⟨letter, hletter, hc⟩ | ⟨hlow, hc⟩ | ⟨_, _, hhigh, hc⟩ <;> rw [hc]
  · have hall : ∀ e ∈ letterEscapes, 0x20 ≤ e.2.toNat := by decide
    simp [hall _ hletter]
  · have hall : ∀ n < 0x20, (Text.hexDigits 4 n).all (fun d => 0x20 ≤ d.toNat) = true := by
      decide +kernel
    have hdigits : ∀ d ∈ Text.hexDigits 4 c.toNat, 0x20 ≤ d.toNat := by
      simpa using hall _ hlow
    exact List.forall_mem_cons.2 ⟨by decide, List.forall_mem_cons.2
      ⟨by decide, fun d hd => .inr (hdigits d hd)⟩⟩
  · simp [hhigh]

theorem plain_string (s : String) : Plain (string s) := by
  refine plain_append (plain_append (by simp [Plain]) ?_) (by simp [Plain])
  intro d hd
  rw [String.toList_ofList, List.mem_flatMap] at hd
  obtain ⟨c, _, hd⟩ := hd
  exact plain_escapeChar c d hd

theorem plain_lineStart (level : Nat) : Plain (lineStart level) := by
  intro c hc
  rw [toList_lineStart, List.mem_cons, List.mem_replicate] at hc
  rcases hc with rfl | ⟨_, rfl⟩ <;> simp

theorem plain_enclose {opening closing : String} (ho : Plain opening) (hc : Plain closing)
    (level : Nat) {parts : List String} (each : ∀ part ∈ parts, Plain part) :
    Plain (enclose opening closing level parts) := by
  unfold enclose
  split
  · exact plain_append ho hc
  · refine plain_append (plain_append (plain_append (plain_append ho (plain_lineStart _)) ?_)
      (plain_lineStart _)) hc
    exact plain_intercalate (plain_append (by simp [Plain]) (plain_lineStart _)) each

mutual

theorem plain_indented (level : Nat) (a : Json) : Plain (a.indented level) := by
  cases a with
  | number n => simpa [indented] using plain_number n
  | text s => simpa [indented] using plain_string s
  | list items =>
    rw [indented]
    exact plain_enclose (by simp [Plain]) (by simp [Plain]) level (plain_items (level + 1) items)
  | object members =>
    rw [indented]
    exact plain_enclose (by simp [Plain]) (by simp [Plain]) level
      (plain_members (level + 1) members)

theorem plain_items (level : Nat) (items : List Json) :
    ∀ part ∈ indentedItems level items, Plain part := by
  match items with
  | [] => simp [indentedItems]
  | item :: rest =>
    rw [indentedItems]
    exact List.forall_mem_cons.2 ⟨plain_indented level item, plain_items level rest⟩

theorem plain_members (level : Nat) (members : List (String × Json)) :
    ∀ part ∈ indentedMembers level members, Plain part := by
  match members with
  | [] => simp [indentedMembers]
  | (key, value) :: rest =>
    rw [indentedMembers]
    refine List.forall_mem_cons.2 ⟨?_, plain_members level rest⟩
    exact plain_append (plain_append (plain_string key) (by simp [Plain]))
      (plain_indented level value)

end

end Plain

end Json

end FieldGrouping.Report
