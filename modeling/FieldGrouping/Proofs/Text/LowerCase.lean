import FieldGrouping.Text.LowerCase

/-!
Lower case as a final form. The small letters of the table are no capitals of it, so that a text in
lower case stays as it is. Characters of ASCII that are no letters come from themselves only.
-/

set_option autoImplicit false

namespace FieldGrouping.Text

namespace CaseRun

variable {run other : CaseRun} {n image : Nat}

def lastImage (run : CaseRun) : Nat :=
  run.image + (run.last - run.first)

theorem image?_eq_some (h : run.image? n = some image) :
    run.image ≤ image ∧ image ≤ run.lastImage ∧ (image - run.image) % run.step = 0 := by
  unfold image? at h
  split at h
  · cases h
    have hdiff : run.image + (n - run.first) - run.image = n - run.first := by omega
    rw [hdiff, lastImage]
    omega
  · cases h

/-- Whether no image of a run is in a range. -/
def avoids (run : CaseRun) (low high : Nat) : Bool :=
  Nat.blt run.lastImage low || Nat.blt high run.image

theorem not_mem_of_avoids {low high : Nat} (h : run.avoids low high = true)
    (himage : run.image? n = some image) : image < low ∨ high < image := by
  have hbounds := image?_eq_some himage
  simp only [avoids, Bool.or_eq_true, Nat.blt_eq] at h
  omega

/-- Whether no image of a run is in the other run: the one lies outside the range of the other, or
they take turns. -/
def apartFrom (run other : CaseRun) : Bool :=
  run.avoids other.first other.last ||
    (other.step == 2 && (run.step == 2 || run.first == run.last) &&
      run.image % 2 != other.first % 2)

theorem image?_of_apartFrom (h : run.apartFrom other = true)
    (himage : run.image? n = some image) : other.image? image = none := by
  rw [image?, if_neg]
  rintro ⟨hfirst, hlast, hstep⟩
  obtain ⟨hlow, hhigh, hmod⟩ := image?_eq_some himage
  simp only [apartFrom, Bool.or_eq_true, Bool.and_eq_true, beq_iff_eq, bne_iff_ne] at h
  rcases h with h | ⟨⟨hother, hrun⟩, hparity⟩
  · have houtside := not_mem_of_avoids h himage
    omega
  · rw [hother] at hstep
    rcases hrun with hrun | hrun
    · rw [hrun] at hmod
      omega
    · have hsingle : run.lastImage = run.image := by
        rw [lastImage, hrun]
        omega
      omega

/-- What the images of a run stay away from: all of ASCII below the small letters, the two capitals
with a rule of their own, and what is no character. -/
def isPlaced (run : CaseRun) : Bool :=
  96 ≤ run.image && run.avoids 0x130 0x130 && run.avoids 0x3A3 0x3A3 &&
    run.avoids 0xD800 0xDFFF && run.lastImage < 0x110000

end CaseRun

/-- What small letters of the table are like. -/
structure IsSmallCode (n : Nat) : Prop where
  low : 96 ≤ n
  valid : n.isValidChar
  ne_dotted : n ≠ 0x130
  ne_sigma : n ≠ 0x3A3
  final : capitalRuns.findSome? (·.image? n) = none

theorem isSmallCode_of_image {n image : Nat}
    (h : capitalRuns.findSome? (·.image? n) = some image) : IsSmallCode image := by
  obtain ⟨run, hrun, himage⟩ := List.exists_of_findSome?_eq_some h
  have hplaced : capitalRuns.all (·.isPlaced) = true := by decide +kernel
  have hapart : capitalRuns.all (fun run => capitalRuns.all (run.apartFrom ·)) = true := by
    decide +kernel
  have hrunPlaced := List.all_eq_true.1 hplaced run hrun
  simp only [CaseRun.isPlaced, Bool.and_eq_true, decide_eq_true_eq] at hrunPlaced
  obtain ⟨⟨⟨⟨hlow, hdotted⟩, hsigma⟩, hsurrogate⟩, hhigh⟩ := hrunPlaced
  have hbounds := CaseRun.image?_eq_some himage
  have hdotted := CaseRun.not_mem_of_avoids hdotted himage
  have hsigma := CaseRun.not_mem_of_avoids hsigma himage
  have hsurrogate := CaseRun.not_mem_of_avoids hsurrogate himage
  constructor
  · omega
  · simp only [Nat.isValidChar]
    omega
  · omega
  · omega
  · refine List.findSome?_eq_none_iff.2 fun other hother => ?_
    have hrunApart := List.all_eq_true.1 (List.all_eq_true.1 hapart run hrun) other hother
    exact CaseRun.image?_of_apartFrom hrunApart himage

theorem toNat_ofNat {n : Nat} (h : n.isValidChar) : (Char.ofNat n).toNat = n := by
  rw [Char.ofNat, dif_pos h]
  rfl

theorem lowerChar_of_capital {c : Char} (h : 65 ≤ c.toNat ∧ c.toNat ≤ 90) :
    ∃ d, lowerChar c = [d] ∧ d.toNat = c.toNat + 32 := by
  have hvalid : (c.toNat + 32).isValidChar := by
    simp only [Nat.isValidChar]
    omega
  refine ⟨Char.ofNat (c.toNat + 32), ?_, toNat_ofNat hvalid⟩
  rw [lowerChar, if_pos (by omega), if_pos h]

/-- A character that is its own small form wherever it stands. -/
structure Settled (c : Char) : Prop where
  lowerChar_eq : lowerChar c = [c]
  ne_sigma : c ≠ 'Σ'

instance (c : Char) : Decidable (Settled c) :=
  decidable_of_iff (lowerChar c = [c] ∧ c ≠ 'Σ') ⟨fun h => ⟨h.1, h.2⟩, fun h => ⟨h.1, h.2⟩⟩

section Settled

variable {c d : Char}

theorem settled_of_ascii (ascii : c.toNat < 128) (h : ¬ (65 ≤ c.toNat ∧ c.toNat ≤ 90)) :
    Settled c where
  lowerChar_eq := by rw [lowerChar, if_pos ascii, if_neg h]
  ne_sigma := by
    rintro rfl
    exact absurd ascii (by decide)

theorem settled_of_final (ascii : ¬ c.toNat < 128) (hdotted : c ≠ 'İ') (hsigma : c ≠ 'Σ')
    (final : capitalRuns.findSome? (·.image? c.toNat) = none) : Settled c where
  lowerChar_eq := by rw [lowerChar, if_neg ascii, if_neg hdotted, final]
  ne_sigma := hsigma

theorem settled_ofNat {n : Nat} (h : IsSmallCode n) : Settled (Char.ofNat n) := by
  have hcode : (Char.ofNat n).toNat = n := toNat_ofNat h.valid
  have hlow := h.low
  by_cases ascii : n < 128
  · exact settled_of_ascii (by omega) (by omega)
  · refine settled_of_final (by omega) ?_ ?_ (by rw [hcode]; exact h.final)
    · intro hdotted
      rw [hdotted] at hcode
      exact h.ne_dotted hcode.symm
    · intro hsigma
      rw [hsigma] at hcode
      exact h.ne_sigma hcode.symm

/-- What a character outside ASCII can go to. -/
theorem mem_lowerChar_cases (ascii : ¬ c.toNat < 128) (h : d ∈ lowerChar c) :
    d = 'i' ∨ d = '\u0307' ∨ (∃ n, IsSmallCode n ∧ d = Char.ofNat n) ∨
      d = c ∧ c ≠ 'İ' ∧ capitalRuns.findSome? (·.image? c.toNat) = none := by
  rw [lowerChar, if_neg ascii] at h
  split at h
  · rcases List.mem_cons.1 h with h | h
    · exact .inl h
    · exact .inr (.inl (List.mem_singleton.1 h))
  · next hdotted =>
    split at h
    · next image himage =>
      exact .inr (.inr (.inl ⟨image, isSmallCode_of_image himage, List.mem_singleton.1 h⟩))
    · next hnone => exact .inr (.inr (.inr ⟨List.mem_singleton.1 h, hdotted, hnone⟩))

theorem settled_of_mem_lowerChar (h : d ∈ lowerChar c) : Settled d := by
  by_cases ascii : c.toNat < 128
  · by_cases hcapital : 65 ≤ c.toNat ∧ c.toNat ≤ 90
    · obtain ⟨e, he, hcode⟩ := lowerChar_of_capital hcapital
      rw [he] at h
      rw [List.mem_singleton.1 h]
      exact settled_of_ascii (by omega) (by omega)
    · have hc := settled_of_ascii ascii hcapital
      rw [hc.lowerChar_eq] at h
      rw [List.mem_singleton.1 h]
      exact hc
  · rcases mem_lowerChar_cases ascii h with rfl | rfl | ⟨n, hn, rfl⟩ | ⟨rfl, hdotted, hnone⟩
    · exact settled_of_ascii (by decide) (by decide)
    · decide +kernel
    · exact settled_ofNat hn
    · refine settled_of_final ascii hdotted ?_ hnone
      rintro rfl
      exact absurd hnone (by decide +kernel)

/-- A character of ASCII that is no letter is the small form of itself only. -/
theorem mem_lowerChar_iff (low : d.toNat < 96) (h : ¬ (65 ≤ d.toNat ∧ d.toNat ≤ 90)) :
    d ∈ lowerChar c ↔ c = d := by
  constructor
  · intro hd
    by_cases ascii : c.toNat < 128
    · by_cases hcapital : 65 ≤ c.toNat ∧ c.toNat ≤ 90
      · obtain ⟨e, he, hcode⟩ := lowerChar_of_capital hcapital
        rw [he] at hd
        rw [← List.mem_singleton.1 hd] at hcode
        omega
      · rw [(settled_of_ascii ascii hcapital).lowerChar_eq] at hd
        exact (List.mem_singleton.1 hd).symm
    · rcases mem_lowerChar_cases ascii hd with rfl | rfl | ⟨n, hn, rfl⟩ | ⟨rfl, _⟩
      · exact absurd low (by decide)
      · exact absurd low (by decide)
      · have hcode := toNat_ofNat hn.valid
        have hlow := hn.low
        omega
      · rfl
  · rintro rfl
    rw [(settled_of_ascii (by omega) h).lowerChar_eq]
    simp

end Settled

/-! ### Texts -/

section Texts

variable {cs : List Char} {c : Char} {casedBefore : Bool}

theorem settled_of_mem_lowerFrom (h : c ∈ lowerFrom casedBefore cs) : Settled c := by
  induction cs generalizing casedBefore with
  | nil => simp [lowerFrom] at h
  | cons d cs ih =>
    rw [lowerFrom] at h
    rcases List.mem_append.1 h with h | h
    · split at h
      · have hsigma : Settled 'ς' ∧ Settled 'σ' := by decide +kernel
        rw [List.mem_singleton.1 h]
        split
        · exact hsigma.1
        · exact hsigma.2
      · exact settled_of_mem_lowerChar h
    · exact ih h

theorem lowerFrom_of_settled (h : ∀ c ∈ cs, Settled c) : lowerFrom casedBefore cs = cs := by
  induction cs generalizing casedBefore with
  | nil => rfl
  | cons c cs ih =>
    have hc : Settled c := h c (by simp)
    rw [lowerFrom, if_neg hc.ne_sigma, hc.lowerChar_eq, ih fun d hd => h d (by simp [hd])]
    rfl

theorem mem_lowerFrom_iff (low : c.toNat < 96) (h : ¬ (65 ≤ c.toNat ∧ c.toNat ≤ 90)) :
    c ∈ lowerFrom casedBefore cs ↔ c ∈ cs := by
  induction cs generalizing casedBefore with
  | nil => simp [lowerFrom]
  | cons d cs ih =>
    rw [lowerFrom, List.mem_append, ih, List.mem_cons]
    refine or_congr_left ?_
    split
    · next hsigma =>
      have hd : c ≠ d := by
        rintro rfl
        rw [hsigma] at low
        exact absurd low (by decide)
      have hsmall : c ≠ 'ς' ∧ c ≠ 'σ' := by
        constructor <;> rintro rfl <;> exact absurd low (by decide)
      split <;> simp [hd, hsmall]
    · rw [mem_lowerChar_iff low h, eq_comm]

theorem lowerChar_ne_nil (c : Char) : lowerChar c ≠ [] := by
  unfold lowerChar
  split
  · simp
  · split
    · simp
    · split <;> simp

/-- A text in lower case begins with an underscore just if the text does. -/
theorem head?_lowerChars_iff (cs : List Char) :
    (lowerChars cs).head? = some '_' ↔ cs.head? = some '_' := by
  unfold lowerChars
  cases cs with
  | nil => simp [lowerFrom]
  | cons c cs =>
    by_cases hc : c = 'Σ'
    · simp [lowerFrom, hc]
    · obtain ⟨d, ds, hd⟩ := List.exists_cons_of_ne_nil (lowerChar_ne_nil c)
      have hhead : d = '_' ↔ c = '_' := by
        constructor
        · rintro rfl
          exact (mem_lowerChar_iff (by decide) (by decide)).1 (by simp [hd])
        · rintro rfl
          rw [(settled_of_ascii (by decide) (by decide)).lowerChar_eq] at hd
          exact (List.cons.inj hd).1.symm
      simp [lowerFrom, hc, hd, hhead]

/-- Without a capital sigma every character goes to lower case by itself. -/
theorem lowerFrom_eq_flatMap (h : 'Σ' ∉ cs) : lowerFrom casedBefore cs = cs.flatMap lowerChar := by
  induction cs generalizing casedBefore with
  | nil => rfl
  | cons c cs ih =>
    have hc : c ≠ 'Σ' := fun heq => h (by simp [heq])
    rw [lowerFrom, if_neg hc, ih fun hcs => h (by simp [hcs]), List.flatMap_cons]

end Texts

end FieldGrouping.Text
