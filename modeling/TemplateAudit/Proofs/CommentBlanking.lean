import Mathlib.Data.List.Forall2
import TemplateAudit.Source.Comments

namespace TemplateAudit.Source

/-! # Blanking keeps lines

Every character that is blanked turns into a space, and no end of a line is blanked, so at every
position stands what stood there before, or a space (`forall₂_blanked`). The only place where the
step function does not look at the character is the star that opens a block comment, so the
invariant is that a block comment starts before a star.
-/

namespace Region

/-- Before the second character of the opening of a block comment stands its star. -/
def Fits (region : Region) (rest : List Char) : Prop :=
  region = .blockStart → rest.head? = some '*'

/-- Outside of comments nothing is asked of the character that comes next. -/
theorem code_fits (rest : List Char) : Fits .code rest :=
  nofun

/-- A step enters the opening of a block comment only if it sees the star. -/
theorem step_fits (region : Region) (c : Char) (rest : List Char) :
    (region.step c rest.head?).1.Fits rest := by
  intro hstart
  cases region with
  | code =>
      -- of the steps from code only the one at a slash before a star leads there
      simp only [step] at hstart
      split at hstart
      · cases hstart
      · split at hstart
        · cases hstart
        · split at hstart
          · next hopen => exact hopen.2
          · cases hstart
  | quoted =>
      simp only [step] at hstart
      split at hstart
      · cases hstart
      · split at hstart <;> cases hstart
  | escaped => cases hstart
  | lineComment =>
      simp only [step] at hstart
      split at hstart <;> cases hstart
  | blockStart => cases hstart
  | blockComment star =>
      simp only [step] at hstart
      split at hstart <;> cases hstart

end Region

/-- A character stays what it is, or turns into a space unless it ends a line. -/
def Blanked (c d : Char) : Prop :=
  d = c ∨ d = ' ' ∧ c ≠ '\n' ∧ c ≠ '\r'

/-- Blanking any character is allowed: ends of lines are left alone. -/
theorem blanked_blank (c : Char) : Blanked c (blank c) := by
  by_cases h : c = '\n' ∨ c = '\r'
  · exact .inl (by simp [blank, h])
  · exact .inr ⟨by simp [blank, h], not_or.mp h⟩

/-- One step keeps its character or turns it into a space that hides no end of a line. -/
theorem Region.step_blanked {region : Region} {c : Char} {rest : List Char}
    (h : region.Fits (c :: rest)) (next : Option Char) : Blanked c (region.step c next).2 := by
  cases region with
  | code =>
      simp only [step]
      split
      · exact .inl rfl
      · split
        · next hslash => exact .inr ⟨rfl, by simp [hslash.1]⟩
        · split
          · next hslash => exact .inr ⟨rfl, by simp [hslash.1]⟩
          · exact .inl rfl
  | quoted =>
      simp only [step]
      split
      · exact .inl rfl
      · split <;> exact .inl rfl
  | escaped => exact .inl rfl
  | lineComment =>
      simp only [step]
      split
      · exact .inl rfl
      · exact blanked_blank c
  | blockStart =>
      -- the step blanks this character unseen, but it is the star
      have hstar : c = '*' := by simpa using h rfl
      exact .inr ⟨rfl, by simp [hstar]⟩
  | blockComment star => exact blanked_blank c

theorem Blanked.newline_iff {c d : Char} (h : Blanked c d) : d = '\n' ↔ c = '\n' := by
  rcases h with rfl | ⟨rfl, hc, -⟩
  · rfl
  · simp [hc]

theorem Blanked.carriageReturn_iff {c d : Char} (h : Blanked c d) : d = '\r' ↔ c = '\r' := by
  rcases h with rfl | ⟨rfl, -, hc⟩
  · rfl
  · simp [hc]

/-! ## Positions -/

/-- At every position stands what stood there before, or a space. -/
theorem forall₂_blanked {region : Region} {cs : List Char} (h : region.Fits cs) :
    List.Forall₂ Blanked cs (blankFrom region cs) := by
  -- on the characters; the invariant goes from one region to the next by `step_fits`
  induction cs generalizing region with
  | nil => exact .nil
  | cons c rest ih => exact .cons (Region.step_blanked h rest.head?) (ih (region.step_fits c rest))

/-- Blanking keeps the number of lines. -/
theorem count_newline_of_blanked {cs ds : List Char} (h : List.Forall₂ Blanked cs ds) :
    ds.count '\n' = cs.count '\n' := by
  induction h with
  | nil => rfl
  | cons hfirst _ ih => simp only [List.count_cons, ih, beq_iff_eq, hfirst.newline_iff]

theorem toList_stripComments (text : String) :
    (stripComments text).toList = blankFrom .code text.toList :=
  String.toList_ofList

/-- Every position of a text, compared before and after its comments are blanked. -/
theorem forall₂_stripComments (text : String) :
    List.Forall₂ Blanked text.toList (stripComments text).toList := by
  rw [toList_stripComments]
  exact forall₂_blanked (Region.code_fits _)

/-- Every part of a text has as many ends of lines with its comments as without them. -/
theorem count_take_stripComments (text : String) (n : Nat) :
    ((stripComments text).toList.take n).count '\n' = (text.toList.take n).count '\n' :=
  count_newline_of_blanked (List.forall₂_take n (forall₂_stripComments text))

/-- What stands at a position, before and after blanking. -/
theorem getElem?_stripComments (text : String) (n : Nat) :
    (text.toList[n]? = none ∧ (stripComments text).toList[n]? = none) ∨
      ∃ c d, text.toList[n]? = some c ∧ (stripComments text).toList[n]? = some d ∧ Blanked c d := by
  have hall := forall₂_stripComments text
  by_cases hn : n < text.toList.length
  · have hn' : n < (stripComments text).toList.length := hall.length_eq ▸ hn
    exact .inr ⟨_, _, List.getElem?_eq_getElem hn, List.getElem?_eq_getElem hn', hall.get hn hn'⟩
  · have hn' : ¬ n < (stripComments text).toList.length := hall.length_eq ▸ hn
    exact .inl ⟨List.getElem?_eq_none (Nat.le_of_not_lt hn),
      List.getElem?_eq_none (Nat.le_of_not_lt hn')⟩

/-- What is no space without the comments is the same with them. -/
theorem getElem?_of_stripComments {text : String} {n : Nat} {c : Char} (hspace : c ≠ ' ')
    (hc : (stripComments text).toList[n]? = some c) : text.toList[n]? = some c := by
  rcases getElem?_stripComments text n with ⟨-, hnone⟩ | ⟨b, d, hb, hd, hblanked⟩
  · rw [hnone] at hc
    cases hc
  · obtain rfl : d = c := Option.some.inj (hd.symm.trans hc)
    rcases hblanked with rfl | ⟨rfl, -⟩
    · exact hb
    · exact absurd rfl hspace

end TemplateAudit.Source
