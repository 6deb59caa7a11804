import TemplateAudit.Proofs.Results
import TemplateAudit.Source.Scan

namespace TemplateAudit.Json

open Source.Place (endsScalar)

/-! # Numbers and words: read to where the scan looks for their end

The scan takes a number or word to run up to the next blank, comma or closing bracket. The JSON
reader reads it by its grammar. Here every reader of scalars is shown to be `Local`: what it takes
has none of those characters in it, nor any other that begins another token or a comment, and it
takes the same wherever one of them or nothing follows.
-/

/-- Nothing follows, or a character at which a number or word ends. -/
def Ends (rest : List Char) : Prop :=
  ∀ c ∈ rest.head?, endsScalar c = true

/-- Whether a character may stand in a number or word: it ends none, and begins nothing else. -/
def inWord (c : Char) : Bool :=
  !(endsScalar c || c = '[' || c = '{' || c = ':' || c = '"' || c = '/')

/-- What the reader takes has only characters of words, and it takes the same wherever a scalar may
end behind it. -/
def Local {α : Type} (reader : Reader α) : Prop :=
  ∀ ⦃cs value tail⦄, reader cs = .ok (value, tail) →
    ∃ taken, cs = taken ++ tail ∧ (∀ c ∈ taken, inWord c = true) ∧
      ∀ rest, Ends rest → reader (taken ++ rest) = .ok (value, rest)

/-- A character of a word does not end it. -/
theorem endsScalar_of_inWord {c : Char} (h : inWord c = true) : endsScalar c = false := by
  cases hends : endsScalar c with
  | false => rfl
  | true => simp [inWord, hends] at h

theorem ends_nil : Ends [] := by
  simp [Ends]

theorem ends_cons {c : Char} (h : endsScalar c = true) (rest : List Char) : Ends (c :: rest) := by
  simpa [Ends] using h

/-- A text that does not begin with `c` still does not when its end is replaced. -/
theorem front_ne_of_ends {c : Char} {taken tail rest : List Char} (hc : endsScalar c = false)
    (h : ∀ more, taken ++ tail = c :: more → False) (hrest : Ends rest) (more : List Char) :
    taken ++ rest ≠ c :: more := by
  rcases taken with _ | ⟨d, taken⟩
  · rintro rfl
    rw [hrest c (by simp)] at hc
    exact Bool.noConfusion hc
  · intro heq
    obtain ⟨rfl, -⟩ : d = c ∧ _ := by simpa using heq
    exact h (taken ++ tail) rfl

/-! ## Digits -/

/-- What ends a scalar is no digit. -/
theorem digit?_of_ends {c : Char} (h : endsScalar c = true) : Ascii.digit? c = none := by
  simp only [endsScalar, isSpace, Bool.or_eq_true, decide_eq_true_eq] at h
  rcases h with ((rfl | rfl) | rfl) | ((rfl | rfl) | rfl) | rfl <;> rfl

/-- Digits may stand in words. -/
theorem inWord_of_digit {c : Char} (h : (Ascii.digit? c).isSome) : inWord c = true := by
  cases hword : inWord c with
  | true => rfl
  | false =>
      simp only [inWord, Bool.not_eq_false', Bool.or_eq_true, decide_eq_true_eq] at hword
      rcases hword with ((((hends | rfl) | rfl) | rfl) | rfl) | rfl
      · simp [digit?_of_ends hends] at h
      all_goals exact absurd h (by decide)

/-- A text that goes on with no digit still does so when its end is replaced. -/
theorem startsWithDigit_replace {taken tail rest : List Char}
    (h : startsWithDigit (taken ++ tail) = false) (hrest : Ends rest) :
    startsWithDigit (taken ++ rest) = false := by
  rcases taken with _ | ⟨c, taken⟩
  · rcases rest with _ | ⟨d, rest⟩
    · rfl
    · have hd := digit?_of_ends (hrest d (by simp))
      simp [startsWithDigit, hd]
  · simpa [startsWithDigit] using h

/-- Where a scalar may end no digit follows. -/
theorem startsWithDigit_of_ends {rest : List Char} (h : Ends rest) :
    startsWithDigit rest = false := by
  have hnone : startsWithDigit ([] ++ []) = false := rfl
  exact startsWithDigit_replace hnone h

/-- Digits are skipped up to the first character that is none. -/
theorem skipDigits_append {digits rest : List Char} (h : ∀ c ∈ digits, (Ascii.digit? c).isSome)
    (hrest : startsWithDigit rest = false) : skipDigits (digits ++ rest) = rest := by
  unfold skipDigits
  rw [List.dropWhile_append_of_pos h]
  rcases rest with _ | ⟨c, rest⟩
  · rfl
  · have hc : ¬ (Ascii.digit? c).isSome := by simpa [startsWithDigit] using hrest
    simp [hc]

/-- The digits that are left out, and that none is left. -/
theorem skipDigits_spec (cs : List Char) :
    ∃ digits, cs = digits ++ skipDigits cs ∧ (∀ c ∈ digits, (Ascii.digit? c).isSome) ∧
      startsWithDigit (skipDigits cs) = false := by
  induction cs with
  | nil => exact ⟨[], rfl, by simp, rfl⟩
  | cons c rest ih =>
      by_cases hc : (Ascii.digit? c).isSome
      · rcases ih with ⟨digits, hcs, hdigits, hend⟩
        have hskip : skipDigits (c :: rest) = skipDigits rest := by
          simp [skipDigits, hc]
        rw [hskip]
        refine ⟨c :: digits, by rw [List.cons_append, ← hcs], ?_, hend⟩
        intro d hd
        rcases List.mem_cons.mp hd with rfl | hd
        · exact hc
        · exact hdigits d hd
      · have hskip : skipDigits (c :: rest) = c :: rest := by
          simp [skipDigits, hc]
        rw [hskip]
        exact ⟨[], rfl, by simp, by simpa [startsWithDigit] using hc⟩

/-- Collecting stops at the end of the digits, or at a digit that does not fit any more; so it
depends on what follows only by its first character. -/
theorem collectDigits_sound {significand total count : Nat} {cs tail : List Char}
    (h : collectDigits significand cs = (total, count, tail)) :
    ∃ digits, cs = digits ++ tail ∧ (∀ c ∈ digits, (Ascii.digit? c).isSome) ∧
      ∀ rest, startsWithDigit rest = false ∨ rest.head? = tail.head? →
        collectDigits significand (digits ++ rest) = (total, count, rest) := by
  -- over the characters, with what has been collected so far; it stops for one of three reasons
  induction cs generalizing significand total count with
  | nil =>
      simp only [collectDigits, Prod.mk.injEq] at h
      rcases h with ⟨rfl, rfl, rfl⟩
      refine ⟨[], rfl, by simp, ?_⟩
      rintro (_ | ⟨c, rest⟩) hrest
      · rfl
      · have hc : Ascii.digit? c = none := by simpa [startsWithDigit] using hrest
        simp [collectDigits, hc]
  | cons c cs ih =>
      rw [collectDigits] at h
      split at h
      · next d hd =>
        split at h
        · next hfits =>
          rcases hmore : collectDigits (significand * 10 + d) cs with ⟨total', count', tail'⟩
          simp only [hmore, Prod.mk.injEq] at h
          rcases h with ⟨rfl, rfl, rfl⟩
          rcases ih hmore with ⟨digits, hcs, hdigits, hstep⟩
          refine ⟨c :: digits, by simp [hcs], ?_, ?_⟩
          · intro x hx
            rcases List.mem_cons.mp hx with rfl | hx
            · simp [hd]
            · exact hdigits x hx
          · intro rest hrest
            simp [collectDigits, hd, hfits, hstep rest hrest]
        · next hfits =>
          -- the digit that does not fit is left for `skipDigits`
          simp only [Prod.mk.injEq] at h
          rcases h with ⟨rfl, rfl, rfl⟩
          refine ⟨[], rfl, by simp, ?_⟩
          rintro (_ | ⟨x, rest⟩) hrest
          · simp [startsWithDigit] at hrest
            simp [collectDigits]
          · rcases hrest with hrest | hrest
            · have hx : Ascii.digit? x = none := by simpa [startsWithDigit] using hrest
              simp [collectDigits, hx]
            · obtain rfl : x = c := by simpa using hrest
              simp [collectDigits, hd, hfits]
      · next hd =>
        simp only [Prod.mk.injEq] at h
        rcases h with ⟨rfl, rfl, rfl⟩
        refine ⟨[], rfl, by simp, ?_⟩
        rintro (_ | ⟨x, rest⟩) hrest
        · simp [collectDigits]
        · have hx : Ascii.digit? x = none := by
            rcases hrest with hrest | hrest
            · simpa [startsWithDigit] using hrest
            · obtain rfl : x = c := by simpa using hrest
              exact hd
          simp [collectDigits, hx]

/-- When digits are left after those that fit, the reader skips them, and so it takes all digits. -/
theorem collectDigits_skip {significand total count : Nat} {cs tail : List Char}
    (h : collectDigits significand cs = (total, count, tail)) (hmore : startsWithDigit tail) :
    ∃ digits, cs = digits ++ skipDigits tail ∧ (∀ c ∈ digits, (Ascii.digit? c).isSome) ∧
      startsWithDigit (skipDigits tail) = false ∧
      ∀ rest, startsWithDigit rest = false →
        ∃ tail', collectDigits significand (digits ++ rest) = (total, count, tail') ∧
          startsWithDigit tail' ∧ skipDigits tail' = rest ∧
          tail'.length - rest.length = tail.length - (skipDigits tail).length := by
  rcases collectDigits_sound h with ⟨digits, hcs, hdigits, hstep⟩
  rcases skipDigits_spec tail with ⟨skipped, htail, hskipped, hend⟩
  rcases skipped with _ | ⟨c, skipped⟩
  · rw [htail, List.nil_append, hend] at hmore
    exact Bool.noConfusion hmore
  refine ⟨digits ++ c :: skipped, by rw [List.append_assoc, ← htail, hcs], ?_, hend, ?_⟩
  · intro x hx
    exact (List.mem_append.mp hx).elim (hdigits x) (hskipped x)
  · intro rest hrest
    have hhead : (c :: skipped ++ rest).head? = tail.head? := by
      rw [htail]
      rfl
    refine ⟨c :: skipped ++ rest, ?_, ?_, skipDigits_append hskipped hrest, ?_⟩
    · rw [List.append_assoc]
      exact hstep _ (.inr hhead)
    · simpa [startsWithDigit] using hskipped c (by simp)
    · have hlength : tail.length = (c :: skipped).length + (skipDigits tail).length := by
        rw [← List.length_append, ← htail]
      simp only [List.length_append]
      omega

/-- Either the exponent was counted to its end, or a digit of it passed the limit and the others are
still there. -/
theorem readExponentDigits_sound {value : Nat} {cs tail : List Char} {result : Option Nat}
    (h : readExponentDigits value cs = (result, tail)) :
    ∃ digits, cs = digits ++ tail ∧ (∀ c ∈ digits, (Ascii.digit? c).isSome) ∧
      ∀ rest, startsWithDigit rest = false ∨ result = none →
        readExponentDigits value (digits ++ rest) = (result, rest) := by
  induction cs generalizing value with
  | nil =>
      simp only [readExponentDigits, Prod.mk.injEq] at h
      rcases h with ⟨rfl, rfl⟩
      refine ⟨[], rfl, by simp, ?_⟩
      rintro (_ | ⟨c, rest⟩) hrest
      · rfl
      · have hc : Ascii.digit? c = none := by simpa [startsWithDigit] using hrest
        simp [readExponentDigits, hc]
  | cons c cs ih =>
      rw [readExponentDigits] at h
      split at h
      · next d hd =>
        split at h
        · next hfits =>
          rcases ih h with ⟨digits, hcs, hdigits, hstep⟩
          refine ⟨c :: digits, by simp [hcs], ?_, ?_⟩
          · intro x hx
            rcases List.mem_cons.mp hx with rfl | hx
            · simp [hd]
            · exact hdigits x hx
          · intro rest hrest
            simp [readExponentDigits, hd, hfits, hstep rest hrest]
        · next hfits =>
          simp only [Prod.mk.injEq] at h
          rcases h with ⟨rfl, rfl⟩
          refine ⟨[c], rfl, by simp [hd], ?_⟩
          intro rest _
          simp [readExponentDigits, hd, hfits]
      · next hd =>
        simp only [Prod.mk.injEq] at h
        rcases h with ⟨rfl, rfl⟩
        refine ⟨[], rfl, by simp, ?_⟩
        rintro (_ | ⟨x, rest⟩) hrest
        · simp [readExponentDigits]
        · have hx : Ascii.digit? x = none := by simpa [startsWithDigit] using hrest
          simp [readExponentDigits, hx]

/-! ## Numbers -/

section

variable {positive : Bool} {significand : Nat} {exponent : Int}

/-- The float is settled by its digits and its exponent alone, and nothing more is taken. -/
theorem finishFloat_sound {cs tail : List Char} {n : Number}
    (h : finishFloat positive significand exponent cs = .ok (n, tail)) :
    cs = tail ∧ ∀ rest, finishFloat positive significand exponent rest = .ok (n, rest) := by
  unfold finishFloat at h ⊢
  split at h
  · simp only [Except.ok.injEq, Prod.mk.injEq] at h
    exact ⟨h.2, fun rest => by rw [h.1]⟩
  · simp [stopHere] at h

/-- Taking some digits before a local reader goes on is local, if the reader that does both finds
the digits wherever the other one may go on. -/
theorem local_digits {α : Type} {reader next : Reader α} (digits : List Char)
    {cs after tail : List Char} {value : α} (hnext : Local next)
    (hdigits : ∀ c ∈ digits, (Ascii.digit? c).isSome) (hcs : cs = digits ++ after)
    (hafter : startsWithDigit after = false) (hread : next after = .ok (value, tail))
    (hstep : ∀ rest, startsWithDigit rest = false → reader (digits ++ rest) = next rest) :
    ∃ taken, cs = taken ++ tail ∧ (∀ c ∈ taken, inWord c = true) ∧
      ∀ rest, Ends rest → reader (taken ++ rest) = .ok (value, rest) := by
  rcases hnext hread with ⟨taken, htaken, hplain, hlocal⟩
  refine ⟨digits ++ taken, by simp [hcs, htaken], ?_, ?_⟩
  · intro c hc
    rcases List.mem_append.mp hc with hc | hc
    · exact inWord_of_digit (hdigits c hc)
    · exact hplain c hc
  · intro rest hrest
    rw [htaken] at hafter
    rw [List.append_assoc, hstep (taken ++ rest) (startsWithDigit_replace hafter hrest)]
    exact hlocal rest hrest

/-- Taking one more character in front keeps a reader local. -/
theorem local_cons {α : Type} {reader next : Reader α} {c : Char} {more tail : List Char}
    {value : α} (hnext : Local next) (hc : inWord c = true)
    (hread : next more = .ok (value, tail)) (hstep : ∀ rest, reader (c :: rest) = next rest) :
    ∃ taken, c :: more = taken ++ tail ∧ (∀ d ∈ taken, inWord d = true) ∧
      ∀ rest, Ends rest → reader (taken ++ rest) = .ok (value, rest) := by
  rcases hnext hread with ⟨taken, htaken, hplain, hlocal⟩
  refine ⟨c :: taken, by simp [htaken], ?_, ?_⟩
  · intro d hd
    rcases List.mem_cons.mp hd with rfl | hd
    · exact hc
    · exact hplain d hd
  · intro rest hrest
    rw [List.cons_append, hstep]
    exact hlocal rest hrest

/-- The digits of an exponent are taken to their end, those of one that is too large as well. -/
theorem readUnsignedExponent_local (raises : Bool) :
    Local (readUnsignedExponent positive significand exponent raises) := by
  intro cs n tail h
  unfold readUnsignedExponent at h
  split at h
  · simp [stopHere] at h
  · next c more =>
    split at h
    · simp [stopNext] at h
    · next d hd =>
      split at h
      · next e after hdigits =>
        rcases readExponentDigits_sound hdigits with ⟨digits, hmore, hall, hstep⟩
        rcases finishFloat_sound h with ⟨rfl, hfinish⟩
        refine ⟨c :: digits, by simp [hmore], ?_, ?_⟩
        · intro x hx
          rcases List.mem_cons.mp hx with rfl | hx
          · exact inWord_of_digit (by simp [hd])
          · exact inWord_of_digit (hall x hx)
        · intro rest hrest
          have hrest' := hstep rest (.inl (startsWithDigit_of_ends hrest))
          simpa [readUnsignedExponent, hd, hrest'] using hfinish rest
      · next after hdigits =>
        split at h
        · simp [stopHere] at h
        · next hsmall =>
          -- too large to be counted: the other digits are left out
          rcases readExponentDigits_sound hdigits with ⟨digits, hmore, hall, hstep⟩
          rcases skipDigits_spec after with ⟨skipped, hafter, hskipped, hend⟩
          simp only [Except.ok.injEq, Prod.mk.injEq] at h
          rcases h with ⟨hn, rfl⟩
          refine ⟨c :: (digits ++ skipped), ?_, ?_, ?_⟩
          · rw [hmore, hafter]
            simp [hafter.symm]
          · intro x hx
            simp only [List.mem_cons, List.mem_append] at hx
            rcases hx with rfl | hx | hx
            · exact inWord_of_digit (by simp [hd])
            · exact inWord_of_digit (hall x hx)
            · exact inWord_of_digit (hskipped x hx)
          · intro rest hrest
            have hrest' := hstep (skipped ++ rest) (.inr rfl)
            have hskip := skipDigits_append hskipped (startsWithDigit_of_ends hrest)
            simp only [List.cons_append, List.append_assoc, readUnsignedExponent, hd, hrest',
              hsmall, if_false, hn, hskip, Bool.false_eq_true]

/-- An exponent is taken with the sign in front of it, if there is one. -/
theorem readExponent_local : Local (readExponent positive significand exponent) := by
  intro cs n tail h
  unfold readExponent at h
  split at h
  · exact local_cons (readUnsignedExponent_local true) rfl h fun rest => rfl
  · exact local_cons (readUnsignedExponent_local false) rfl h fun rest => rfl
  · next hplus hminus =>
    rcases readUnsignedExponent_local true h with ⟨taken, htaken, hplain, hlocal⟩
    refine ⟨taken, htaken, hplain, ?_⟩
    intro rest hrest
    -- there is no sign in front, whatever follows
    unfold readExponent
    split
    · next more heq => exact absurd heq (front_ne_of_ends rfl (htaken ▸ hplus) hrest more)
    · next more heq => exact absurd heq (front_ne_of_ends rfl (htaken ▸ hminus) hrest more)
    · exact hlocal rest hrest

/-- Where a number may end no exponent follows. -/
theorem readAfterDigits_of_ends {rest : List Char} (h : Ends rest) :
    readAfterDigits positive significand exponent rest =
      finishFloat positive significand exponent rest := by
  unfold readAfterDigits
  split
  · exact absurd (h 'e' (by simp)) (by decide)
  · exact absurd (h 'E' (by simp)) (by decide)
  · rfl

/-- Behind the digits an exponent is taken, or nothing. -/
theorem readAfterDigits_local : Local (readAfterDigits positive significand exponent) := by
  intro cs n tail h
  unfold readAfterDigits at h
  split at h
  · exact local_cons readExponent_local rfl h fun rest => rfl
  · exact local_cons readExponent_local rfl h fun rest => rfl
  · rcases finishFloat_sound h with ⟨rfl, hfinish⟩
    refine ⟨[], rfl, by simp, ?_⟩
    intro rest hrest
    rw [List.nil_append, readAfterDigits_of_ends hrest]
    exact hfinish rest

/-- The digits of a fraction are taken to their end, and so is an exponent behind them. -/
theorem readFraction_local : Local (readFraction positive significand exponent) := by
  intro cs n tail h
  unfold readFraction at h
  rcases hcollect : collectDigits significand cs with ⟨total, count, after⟩
  simp only [hcollect] at h
  -- digits that do not fit are skipped, and otherwise all of them were collected
  split at h
  · next hmore =>
    rcases collectDigits_skip hcollect hmore with ⟨all, hcs, hall, hend, hlong⟩
    refine local_digits all readAfterDigits_local hall hcs hend h ?_
    intro rest hrest
    rcases hlong rest hrest with ⟨after', hcollect', hmore', hskip, -⟩
    simp [readFraction, hcollect', hmore', hskip]
  · next hmore =>
    have hend : startsWithDigit after = false := by simpa using hmore
    split at h
    · split at h <;> simp [stopNext] at h
    · next hcount =>
      rcases collectDigits_sound hcollect with ⟨digits, hcs, hdigits, hstep⟩
      refine local_digits digits readAfterDigits_local hdigits hcs hend h ?_
      intro rest hrest
      simp [readFraction, hstep rest (.inl hrest), hrest, hcount]

/-- Behind an integer a fraction or an exponent is taken, or nothing. -/
theorem readAfterInteger_local : Local (readAfterInteger positive significand) := by
  intro cs n tail h
  unfold readAfterInteger at h
  split at h
  · exact local_cons readFraction_local rfl h fun rest => rfl
  · exact local_cons readExponent_local rfl h fun rest => rfl
  · exact local_cons readExponent_local rfl h fun rest => rfl
  · simp only [Except.ok.injEq, Prod.mk.injEq] at h
    rcases h with ⟨rfl, rfl⟩
    refine ⟨[], rfl, by simp, ?_⟩
    intro rest hrest
    rw [List.nil_append]
    -- neither a point nor an exponent ends a scalar
    unfold readAfterInteger
    split
    · exact absurd (hrest '.' (by simp)) (by decide)
    · exact absurd (hrest 'e' (by simp)) (by decide)
    · exact absurd (hrest 'E' (by simp)) (by decide)
    · rfl

/-- Behind an integer that does not fit the same is taken. -/
theorem readAfterLongInteger_local (dropped : Nat) :
    Local (readAfterLongInteger positive significand dropped) := by
  intro cs n tail h
  unfold readAfterLongInteger at h
  split at h
  · exact local_cons readFraction_local rfl h fun rest => rfl
  · next hpoint =>
    rcases readAfterDigits_local h with ⟨taken, htaken, hplain, hlocal⟩
    refine ⟨taken, htaken, hplain, ?_⟩
    intro rest hrest
    -- there is no point in front, whatever follows
    unfold readAfterLongInteger
    split
    · next more heq => exact absurd heq (front_ne_of_ends rfl (htaken ▸ hpoint) hrest more)
    · exact hlocal rest hrest

end

/-- A number is taken to its end. -/
theorem readNumber_local (positive : Bool) : Local (readNumber positive) := by
  intro cs n tail h
  unfold readNumber at h
  split at h
  · simp [stopHere] at h
  · next c more =>
    -- by the first digit: a zero stands alone, and another digit may be followed by more
    split at h
    · simp [stopNext] at h
    · next hzero =>
      split at h
      · simp [stopNext] at h
      · next hend =>
        -- nothing but the zero itself belongs to the integer part
        refine local_digits [c] readAfterInteger_local (by simp [hzero]) rfl
          (by simpa using hend) h ?_
        intro rest hrest
        simp [readNumber, hzero, hrest]
    · next d hnonzero hd =>
      rcases hcollect : collectDigits d more with ⟨total, count, after⟩
      have hc : (Ascii.digit? c).isSome := by simp [hd]
      simp only [hcollect] at h
      split at h
      · next hlong =>
        rcases collectDigits_skip hcollect hlong with ⟨digits, hmore, hdigits, hend, hstep⟩
        have hall : ∀ d ∈ c :: digits, (Ascii.digit? d).isSome :=
          List.forall_mem_cons.mpr ⟨hc, hdigits⟩
        have hcs : c :: more = c :: digits ++ skipDigits after := by
          rw [hmore, List.cons_append]
        refine local_digits (c :: digits) (readAfterLongInteger_local _) hall hcs hend h ?_
        intro rest hrest
        -- as many digits are skipped as before, so the exponent is the same
        rcases hstep rest hrest with ⟨after', hcollect', hlong', hskip, hlength⟩
        simp [readNumber, hd, hcollect', hlong', hskip, hlength]
      · next hend =>
        rcases collectDigits_sound hcollect with ⟨digits, hmore, hdigits, hstep⟩
        have hall : ∀ d ∈ c :: digits, (Ascii.digit? d).isSome :=
          List.forall_mem_cons.mpr ⟨hc, hdigits⟩
        have hcs : c :: more = c :: digits ++ after := by
          rw [hmore, List.cons_append]
        refine local_digits (c :: digits) readAfterInteger_local hall hcs (by simpa using hend) h ?_
        intro rest hrest
        simp [readNumber, hd, hstep rest (.inl hrest), hrest]

/-! ## Words, and scalars of every kind -/

/-- The letters of a word are read one by one. -/
theorem readWord_local {α : Type} (value : α) (word : List Char)
    (hword : ∀ c ∈ word, inWord c = true) : Local (readWord value word) := by
  induction word with
  | nil =>
      intro cs result tail h
      simp only [readWord, Except.ok.injEq, Prod.mk.injEq] at h
      rcases h with ⟨rfl, rfl⟩
      exact ⟨[], rfl, by simp, fun rest _ => rfl⟩
  | cons letter word ih =>
      intro cs result tail h
      rcases cs with _ | ⟨c, cs⟩
      · simp [readWord, stopHere] at h
      rw [readWord] at h
      split at h
      · next hc =>
        subst hc
        refine local_cons (ih fun d hd => hword d (by simp [hd])) (hword c (by simp)) h ?_
        intro rest
        simp [readWord]
      · simp [stopNext] at h

/-- Gives the number that a reader reads as a value. -/
def valueOf (reader : Reader Number) : Reader Json := fun cs => do
  let (n, tail) ← reader cs
  pure (.number n, tail)

/-- Making a value of a number takes no more characters. -/
theorem valueOf_local {reader : Reader Number} (h : Local reader) : Local (valueOf reader) := by
  intro cs value tail hread
  rcases bind_ok_iff.mp hread with ⟨⟨n, after⟩, hn, hlast⟩
  have hpair : Json.number n = value ∧ after = tail := by simpa using hlast
  rcases h hn with ⟨taken, hcs, hplain, hlocal⟩
  refine ⟨taken, by rw [hcs, hpair.2], hplain, ?_⟩
  intro rest hrest
  simp [valueOf, hlocal rest hrest, hpair.1]

/-- A number or word: what can stand for a value beside strings, arrays and objects. -/
structure Scalar where
  first : Char
  more : List Char
  value : Json
  /-- It is no string. -/
  unquoted : first ≠ '"'
  /-- No character of it ends it. -/
  plain : ∀ c ∈ first :: more, endsScalar c = false
  /-- It is read whole wherever it ends. -/
  reads : ∀ rest, Ends rest → readScalar first (more ++ rest) = .ok (value, rest)

namespace Scalar

/-- The characters of a number or word. -/
def written (scalar : Scalar) : List Char :=
  scalar.first :: scalar.more

/-- A number is not empty, so its first digit may be taken away. -/
theorem readDigits_local {c : Char} :
    Local (fun cs => valueOf (readNumber true) (c :: cs)) := by
  intro cs value tail h
  rcases valueOf_local (readNumber_local true) h with ⟨taken, hcs, hplain, hlocal⟩
  rcases taken with _ | ⟨d, taken⟩
  · have hnothing := hlocal [] ends_nil
    simp [valueOf, readNumber, stopHere, bind, Except.bind] at hnothing
  · obtain ⟨rfl, hmore⟩ : c = d ∧ cs = taken ++ tail := by simpa using hcs
    exact ⟨taken, hmore, fun x hx => hplain x (by simp [hx]), hlocal⟩

/-- A scalar other than a string starts with a character of a word, and its reader is local. -/
theorem readScalar_local {c : Char} {cs tail : List Char} {value : Json} (hquote : c ≠ '"')
    (h : readScalar c cs = .ok (value, tail)) :
    inWord c = true ∧ Local (readScalar c) := by
  -- by the first character, which says which of the readers goes on
  by_cases hnull : c = 'n'
  · subst hnull
    have hword : ∀ d ∈ ['u', 'l', 'l'], inWord d = true := by
      simp [inWord, endsScalar, isSpace]
    exact ⟨rfl, readWord_local Json.null _ hword⟩
  by_cases htrue : c = 't'
  · subst htrue
    have hword : ∀ d ∈ ['r', 'u', 'e'], inWord d = true := by
      simp [inWord, endsScalar, isSpace]
    exact ⟨rfl, readWord_local (Json.bool true) _ hword⟩
  by_cases hfalse : c = 'f'
  · subst hfalse
    have hword : ∀ d ∈ ['a', 'l', 's', 'e'], inWord d = true := by
      simp [inWord, endsScalar, isSpace]
    exact ⟨rfl, readWord_local (Json.bool false) _ hword⟩
  by_cases hminus : c = '-'
  · subst hminus
    exact ⟨rfl, valueOf_local (readNumber_local false)⟩
  by_cases hdigit : (Ascii.digit? c).isSome
  · have hreader : readScalar c = fun cs => valueOf (readNumber true) (c :: cs) := by
      funext cs
      simp only [readScalar, valueOf, hnull, htrue, hfalse, hminus, hquote, hdigit, if_false,
        if_true]
    rw [hreader]
    exact ⟨inWord_of_digit hdigit, readDigits_local⟩
  · simp [readScalar, hnull, htrue, hfalse, hminus, hquote, hdigit, stopNext] at h

/-- What the reader makes of the front of a text is a number or word of its own. -/
theorem ofRead {c : Char} {cs tail : List Char} {value : Json} (hquote : c ≠ '"')
    (h : readScalar c cs = .ok (value, tail)) :
    ∃ scalar : Scalar, scalar.value = value ∧ c :: cs = scalar.written ++ tail := by
  have hkeep := readScalar_local hquote h
  rcases hkeep.2 h with ⟨taken, hcs, hwords, hlocal⟩
  have hall : ∀ d ∈ c :: taken, inWord d = true := List.forall_mem_cons.mpr ⟨hkeep.1, hwords⟩
  have hplain : ∀ d ∈ c :: taken, endsScalar d = false := fun d hd =>
    endsScalar_of_inWord (hall d hd)
  exact ⟨⟨c, taken, value, hquote, hplain, hlocal⟩, rfl, by rw [hcs]; rfl⟩

/-- It has only characters of words. -/
theorem inWord_of_mem (scalar : Scalar) : ∀ c ∈ scalar.written, inWord c = true := by
  have hread := scalar.reads [] ends_nil
  have hkeep := readScalar_local scalar.unquoted hread
  rcases hkeep.2 hread with ⟨taken, hmore, hwords, -⟩
  obtain rfl : scalar.more = taken := by simpa using hmore
  exact List.forall_mem_cons.mpr ⟨hkeep.1, hwords⟩

/-- It is no container either. -/
theorem unbracketed (scalar : Scalar) : scalar.first ≠ '[' ∧ scalar.first ≠ '{' := by
  have hread := scalar.reads [] ends_nil
  constructor <;>
    · intro hfirst
      rw [hfirst] at hread
      simp [readScalar, stopNext, Ascii.digit?] at hread

end Scalar

end TemplateAudit.Json
