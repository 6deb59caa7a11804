import TemplateAudit.Path.RulePath
import TemplateAudit.Proofs.Results

namespace TemplateAudit.RulePath

/-! # The grammar of rule paths

A path is empty, or it is a name or a selector in brackets, followed by any number of selectors in
brackets and of names with a point before them. The reader goes through the characters with a place
that holds what it has collected; what it accepts from a place on is described by `Rest`, and one
induction over the characters shows that this is all (`readFrom_iff`).
-/

/-! ## The grammar -/

/-- The characters that no name has. -/
def isReserved (c : Char) : Bool :=
  c = '.' || c = '[' || c = ']'

/-- A name of a path. -/
def IsName (name : List Char) : Prop :=
  name ≠ [] ∧ ∀ c ∈ name, isReserved c = false

/-- What may stand between brackets, and the selector that it writes. -/
inductive Bracket : List Char → Selector → Prop where
  | star : Bracket ['*'] .allElements
  | index {sign digits : List Char} (signed : sign = [] ∨ sign = ['+']) (nonempty : digits ≠ [])
      (decimal : ∀ c ∈ digits, c.isDigit = true)
      (fits : Nat.ofDigitChars 10 digits 0 < UInt64.size) :
      Bracket (sign ++ digits) (.index (Nat.ofDigitChars 10 digits 0))

/-- What may follow a name or a bracket, and the selectors that it writes. -/
inductive Continues : List Char → List Selector → Prop where
  | done : Continues [] []
  | bracket {inner rest : List Char} {selector : Selector} {selectors : List Selector}
      (first : Bracket inner selector) (others : Continues rest selectors) :
      Continues ('[' :: (inner ++ ']' :: rest)) (selector :: selectors)
  | name {name rest : List Char} {selectors : List Selector} (first : IsName name)
      (others : Continues rest selectors) :
      Continues ('.' :: (name ++ rest)) (nameSelector name :: selectors)

/-- A path and the selectors that it writes. -/
inductive Written : List Char → List Selector → Prop where
  | empty : Written [] []
  | bracket {inner rest : List Char} {selector : Selector} {selectors : List Selector}
      (first : Bracket inner selector) (others : Continues rest selectors) :
      Written ('[' :: (inner ++ ']' :: rest)) (selector :: selectors)
  | name {name rest : List Char} {selectors : List Selector} (first : IsName name)
      (others : Continues rest selectors) :
      Written (name ++ rest) (nameSelector name :: selectors)

/-! ## Brackets -/

/-- A digit is a character from 0 to 9, and its value is the distance from 0. -/
theorem digit?_eq_some {c : Char} {d : Nat} :
    Ascii.digit? c = some d ↔ c.isDigit = true ∧ c.toNat - '0'.toNat = d := by
  by_cases hc : '0' ≤ c ∧ c ≤ '9'
  · have hdigit : c.isDigit = true := by simpa [Char.isDigit, Char.le_def] using hc
    simp [Ascii.digit?, hc, hdigit]
  · have hdigit : ¬ c.isDigit = true := by simpa [Char.isDigit, Char.le_def] using hc
    simp [Ascii.digit?, hc, hdigit]

/-- Further digits do not make a number smaller. -/
theorem le_ofDigitChars (digits : List Char) (n : Nat) : n ≤ Nat.ofDigitChars 10 digits n := by
  induction digits generalizing n with
  | nil => exact Nat.le_refl n
  | cons c rest ih =>
      rw [Nat.ofDigitChars_cons]
      have hrest := ih (10 * n + (c.toNat - '0'.toNat))
      omega

/-- One more digit of a number that must stay below `UInt64.size`. -/
def addDigit (value : Option Nat) (c : Char) : Option Nat := do
  let value ← value
  let d ← Ascii.digit? c
  if value * 10 + d < UInt64.size then some (value * 10 + d) else none

theorem foldl_addDigit_none (digits : List Char) : digits.foldl addDigit none = none := by
  induction digits with
  | nil => rfl
  | cons c rest ih => exact ih

/-- Digits can be added one by one as long as the whole number fits. -/
theorem foldl_addDigit {digits : List Char} {n value : Nat} (hn : n < UInt64.size) :
    digits.foldl addDigit (some n) = some value ↔
      (∀ c ∈ digits, c.isDigit = true) ∧ Nat.ofDigitChars 10 digits n = value ∧
        value < UInt64.size := by
  -- over the digits, with the number so far, which still fits
  induction digits generalizing n with
  | nil =>
      simp only [List.foldl_nil, Option.some.injEq, Nat.ofDigitChars_nil]
      constructor
      · rintro rfl
        exact ⟨by simp, rfl, hn⟩
      · exact fun h => h.2.1
  | cons c rest ih =>
      rw [List.foldl_cons, Nat.ofDigitChars_cons, List.forall_mem_cons]
      rcases hdigit : Ascii.digit? c with _ | d
      · have hc : ¬ c.isDigit = true := by
          intro hc
          rw [digit?_eq_some.mpr ⟨hc, rfl⟩] at hdigit
          cases hdigit
        simp [addDigit, hdigit, foldl_addDigit_none, hc]
      · rcases digit?_eq_some.mp hdigit with ⟨hc, rfl⟩
        rw [Nat.mul_comm 10 n]
        by_cases hfits : n * 10 + (c.toNat - '0'.toNat) < UInt64.size
        · have hadd : addDigit (some n) c = some (n * 10 + (c.toNat - '0'.toNat)) := by
            simp only [addDigit, hdigit, Option.bind_eq_bind, Option.bind_some, if_pos hfits]
          rw [hadd, ih hfits]
          simp [hc]
        · have hadd : addDigit (some n) c = none := by
            simp only [addDigit, hdigit, Option.bind_eq_bind, Option.bind_some, if_neg hfits]
          rw [hadd, foldl_addDigit_none]
          constructor
          · intro h
            cases h
          · -- more digits do not make the number smaller
            rintro ⟨-, hvalue, hlt⟩
            have hle := le_ofDigitChars rest (n * 10 + (c.toNat - '0'.toNat))
            omega

/-- The digits of an index are read as a number of 64 bits. -/
theorem indexOfDigits?_eq_some {digits : List Char} {value : Nat} :
    indexOfDigits? digits = some value ↔
      digits ≠ [] ∧ (∀ c ∈ digits, c.isDigit = true) ∧ Nat.ofDigitChars 10 digits 0 = value ∧
        value < UInt64.size := by
  cases digits with
  | nil => simp [indexOfDigits?]
  | cons c rest =>
      have hfold : indexOfDigits? (c :: rest) = (c :: rest).foldl addDigit (some 0) := rfl
      rw [hfold, foldl_addDigit (by decide)]
      simp

/-- The text between brackets is read as the grammar says. -/
theorem bracketSelector?_eq_some {inner : List Char} {selector : Selector} :
    bracketSelector? inner = some selector ↔ Bracket inner selector := by
  constructor
  · intro h
    unfold bracketSelector? at h
    split at h
    · next hstar =>
      rw [hstar, ← Option.some.inj h]
      exact .star
    · split at h
      · next digits _ =>
        rcases Option.map_eq_some_iff.mp h with ⟨value, hvalue, rfl⟩
        rcases indexOfDigits?_eq_some.mp hvalue with ⟨hne, hdecimal, rfl, hfits⟩
        exact .index (.inr rfl) hne hdecimal hfits
      · rcases Option.map_eq_some_iff.mp h with ⟨value, hvalue, rfl⟩
        rcases indexOfDigits?_eq_some.mp hvalue with ⟨hne, hdecimal, rfl, hfits⟩
        have hindex : Bracket ([] ++ inner) _ := .index (.inl rfl) hne hdecimal hfits
        exact hindex
  · intro h
    cases h with
    | star => rfl
    | index signed nonempty decimal fits =>
      next sign digits =>
      have hvalue := indexOfDigits?_eq_some.mpr ⟨nonempty, decimal, rfl, fits⟩
      rcases signed with rfl | rfl
      · rcases digits with _ | ⟨c, digits⟩
        · exact absurd rfl nonempty
        -- a digit is neither the star nor the sign
        have hc := decimal c (by simp)
        have hstar : [] ++ c :: digits ≠ ['*'] := by
          rintro heq
          rw [(List.cons_eq_cons.mp heq).1] at hc
          exact absurd hc (by decide)
        unfold bracketSelector?
        rw [if_neg hstar]
        split
        · next heq =>
          rw [(List.cons_eq_cons.mp heq).1] at hc
          exact absurd hc (by decide)
        · rw [List.nil_append, hvalue]
          rfl
      · simp [bracketSelector?, hvalue]

/-- No bracket is closed inside. -/
theorem Bracket.closing_not_mem {inner : List Char} {selector : Selector}
    (h : Bracket inner selector) : ']' ∉ inner := by
  cases h with
  | star => decide
  | index signed nonempty decimal fits =>
      intro hmem
      rcases List.mem_append.mp hmem with hsign | hdigits
      · rcases signed with rfl | rfl <;> simp at hsign
      · exact absurd (decimal _ hdigits) (by decide)

/-! ## The reader -/

/-- What the reader accepts from a place on. -/
def Rest : Place → List Char → List Selector → Prop
  | .segmentStart, cs, selectors =>
    ∃ name rest others, IsName name ∧ Continues rest others ∧ cs = name ++ rest ∧
      selectors = nameSelector name :: others
  | .inName name, cs, selectors =>
    ∃ more rest others, (∀ c ∈ more, isReserved c = false) ∧ Continues rest others ∧
      cs = more ++ rest ∧ selectors = nameSelector (name ++ more) :: others
  | .inBracket _ inner, cs, selectors =>
    ∃ more rest selector others, ']' ∉ more ∧ Bracket (inner ++ more) selector ∧
      Continues rest others ∧ cs = more ++ ']' :: rest ∧ selectors = selector :: others
  | .afterBracket, cs, selectors => Continues cs selectors

section

variable {c : Char} {cs name inner : List Char} {selectors : List Selector}

/-- What may follow starts with a point or with a bracket. -/
theorem continues_cons :
    Continues (c :: cs) selectors ↔
      c = '.' ∧ Rest .segmentStart cs selectors ∨
        ∃ start, c = '[' ∧ Rest (.inBracket start []) cs selectors := by
  constructor
  · intro h
    cases h with
    | bracket first others =>
        exact .inr ⟨0, rfl, _, _, _, _, first.closing_not_mem, first, others, rfl, rfl⟩
    | name first others => exact .inl ⟨rfl, _, _, _, first, others, rfl, rfl⟩
  · rintro (⟨rfl, name, rest, others, hname, hrest, rfl, rfl⟩ |
      ⟨start, rfl, more, rest, selector, others, -, hinner, hrest, rfl, rfl⟩)
    · exact .name hname hrest
    · exact .bracket hinner hrest

/-- A name starts with a character that is not reserved. -/
theorem segmentStart_cons :
    Rest .segmentStart (c :: cs) selectors ↔
      isReserved c = false ∧ Rest (.inName [c]) cs selectors := by
  constructor
  · rintro ⟨name, rest, others, ⟨hne, hplain⟩, hrest, hcs, rfl⟩
    rcases name with _ | ⟨d, name⟩
    · exact absurd rfl hne
    · rcases List.cons_eq_cons.mp hcs with ⟨rfl, rfl⟩
      have hboth := List.forall_mem_cons.mp hplain
      exact ⟨hboth.1, name, rest, others, hboth.2, hrest, rfl, rfl⟩
  · rintro ⟨hc, more, rest, others, hplain, hrest, rfl, rfl⟩
    exact ⟨c :: more, rest, others, ⟨by simp, List.forall_mem_cons.mpr ⟨hc, hplain⟩⟩, hrest, rfl,
      rfl⟩

/-- A name ends with the path or before a reserved character. -/
theorem inName_nil : Rest (.inName name) [] selectors ↔ selectors = [nameSelector name] := by
  constructor
  · rintro ⟨more, rest, others, -, hrest, hcs, rfl⟩
    rcases List.append_eq_nil_iff.mp hcs.symm with ⟨rfl, rfl⟩
    cases hrest
    rw [List.append_nil]
  · rintro rfl
    exact ⟨[], [], [], by simp, .done, rfl, by rw [List.append_nil]⟩

/-- A name goes on with a character that is not reserved, or ends and is followed by something. -/
theorem inName_cons :
    Rest (.inName name) (c :: cs) selectors ↔
      isReserved c = false ∧ Rest (.inName (name ++ [c])) cs selectors ∨
        ∃ others, Continues (c :: cs) others ∧ selectors = nameSelector name :: others := by
  constructor
  · rintro ⟨more, rest, others, hplain, hrest, hcs, rfl⟩
    rcases more with _ | ⟨d, more⟩
    · rw [List.nil_append] at hcs
      rw [← hcs] at hrest
      exact .inr ⟨others, hrest, by rw [List.append_nil]⟩
    · rcases List.cons_eq_cons.mp hcs with ⟨rfl, rfl⟩
      have hboth := List.forall_mem_cons.mp hplain
      exact .inl ⟨hboth.1, more, rest, others, hboth.2, hrest, rfl, by simp⟩
  · rintro (⟨hc, more, rest, others, hplain, hrest, rfl, rfl⟩ | ⟨others, hrest, rfl⟩)
    · exact ⟨c :: more, rest, others, List.forall_mem_cons.mpr ⟨hc, hplain⟩, hrest, rfl, by simp⟩
    · exact ⟨[], c :: cs, others, by simp, hrest, rfl, by rw [List.append_nil]⟩

/-- What stands between brackets goes on up to the bracket that closes it. -/
theorem inBracket_cons {start : Nat} (hc : c ≠ ']') :
    Rest (.inBracket start inner) (c :: cs) selectors ↔
      Rest (.inBracket start (inner ++ [c])) cs selectors := by
  constructor
  · rintro ⟨more, rest, selector, others, hopen, hinner, hrest, hcs, rfl⟩
    rcases more with _ | ⟨d, more⟩
    · exact absurd (List.cons_eq_cons.mp hcs).1 hc
    · rcases List.cons_eq_cons.mp hcs with ⟨rfl, rfl⟩
      exact ⟨more, rest, selector, others, fun hmem => hopen (by simp [hmem]),
        by simpa using hinner, hrest, rfl, rfl⟩
  · rintro ⟨more, rest, selector, others, hopen, hinner, hrest, rfl, rfl⟩
    refine ⟨c :: more, rest, selector, others, ?_, by simpa using hinner, hrest, rfl, rfl⟩
    simpa [hopen] using hc.symm

/-- At the bracket that closes it, what stands before must be a star or an index. -/
theorem inBracket_close {start : Nat} :
    Rest (.inBracket start inner) (']' :: cs) selectors ↔
      ∃ selector others, Bracket inner selector ∧ Continues cs others ∧
        selectors = selector :: others := by
  constructor
  · rintro ⟨more, rest, selector, others, hopen, hinner, hrest, hcs, rfl⟩
    rcases more with _ | ⟨d, more⟩
    · rcases List.cons_eq_cons.mp hcs with ⟨-, rfl⟩
      exact ⟨selector, others, by simpa using hinner, hrest, rfl⟩
    · exact absurd (List.mem_cons.mpr (.inl (List.cons_eq_cons.mp hcs).1)) hopen
  · rintro ⟨selector, others, hinner, hrest, rfl⟩
    exact ⟨[], cs, selector, others, by simp, by simpa using hinner, hrest, rfl, rfl⟩

end

theorem isReserved_eq_false {c : Char} :
    isReserved c = false ↔ c ≠ '.' ∧ c ≠ '[' ∧ c ≠ ']' := by
  simp [isReserved, and_assoc]

/-- At a closing bracket its selector is read, and then what may follow it. -/
theorem readFrom_close_iff {start offset : Nat} {inner cs : List Char} {selectors : List Selector}
    (hrest : ∀ others, readFrom .afterBracket (offset + 1) cs = .ok others ↔
      Continues cs others) :
    readFrom (.inBracket start inner) offset (']' :: cs) = .ok selectors ↔
      ∃ selector others, Bracket inner selector ∧ Continues cs others ∧
        selectors = selector :: others := by
  rw [readFrom, if_pos rfl]
  split
  · next selector hselector =>
    rw [map_ok_iff]
    constructor
    · rintro ⟨others, hread, rfl⟩
      exact ⟨selector, others, bracketSelector?_eq_some.mp hselector, (hrest others).mp hread, rfl⟩
    · rintro ⟨written, others, hwritten, hcontinues, rfl⟩
      rw [bracketSelector?_eq_some.mpr hwritten] at hselector
      obtain rfl := Option.some.inj hselector
      exact ⟨others, (hrest others).mpr hcontinues, rfl⟩
  · next hselector =>
    simp only [reduceCtorEq, false_iff]
    rintro ⟨written, others, hwritten, -, -⟩
    rw [bracketSelector?_eq_some.mpr hwritten] at hselector
    cases hselector

/-- The reader accepts from a place on what the grammar allows there. The start of the whole path,
where a bracket may stand, too, is left to `parse_iff`. -/
theorem readFrom_iff {place : Place} {offset : Nat} {cs : List Char} {selectors : List Selector}
    (hstart : place = .segmentStart → offset ≠ 0) :
    readFrom place offset cs = .ok selectors ↔ Rest place cs selectors := by
  -- over the characters, for every place; at each the grammar and the reader look at the same
  -- character
  induction cs generalizing place offset selectors with
  | nil =>
      cases place with
      | segmentStart =>
          have hoffset := hstart rfl
          simp only [readFrom, if_neg hoffset, reduceCtorEq, false_iff]
          rintro ⟨name, rest, others, hname, -, hcs, -⟩
          exact hname.1 (List.append_eq_nil_iff.mp hcs.symm).1
      | inName name =>
          rw [inName_nil, readFrom, Except.ok.injEq, eq_comm]
      | inBracket start inner => simp [readFrom, Rest]
      | afterBracket =>
          rw [readFrom, Except.ok.injEq, Rest]
          constructor
          · rintro rfl
            exact .done
          · intro h
            cases h
            rfl
  | cons c cs ih =>
      have hnext : ∀ {place : Place}, place = .segmentStart → offset + 1 ≠ 0 := by simp
      -- After a name or a bracket come a point and a name, or a bracket.
      have hcontinues : ∀ {others : List Selector}, Continues (c :: cs) others ↔
          c = '.' ∧ readFrom .segmentStart (offset + 1) cs = .ok others ∨
            c = '[' ∧ readFrom (.inBracket offset []) (offset + 1) cs = .ok others := by
        intro others
        rw [continues_cons]
        constructor
        · rintro (⟨hc, hrest⟩ | ⟨start, hc, hrest⟩)
          · exact .inl ⟨hc, (ih hnext).mpr hrest⟩
          · exact .inr ⟨hc, (ih hnext).mpr hrest⟩
        · rintro (⟨hc, hread⟩ | ⟨hc, hread⟩)
          · exact .inl ⟨hc, (ih hnext).mp hread⟩
          · exact .inr ⟨offset, hc, (ih hnext).mp hread⟩
      cases place with
      | segmentStart =>
          have hoffset := hstart rfl
          rw [segmentStart_cons, isReserved_eq_false, ← ih hnext, readFrom]
          split
          · simp [*]
          · split
            · simp [*]
            · split <;> simp [*]
      | inName name =>
          rw [inName_cons, isReserved_eq_false, ← ih hnext, readFrom]
          simp only [hcontinues]
          split
          · next hpoint => simp [hpoint, map_ok_iff]
          · next hpoint =>
            split
            · next hbracket => simp [hbracket, map_ok_iff]
            · next hbracket => split <;> simp [*]
      | inBracket start inner =>
          by_cases hclose : c = ']'
          · subst hclose
            rw [inBracket_close]
            exact readFrom_close_iff fun others => ih hnext
          · rw [readFrom, if_neg hclose, inBracket_cons hclose, ih hnext]
      | afterBracket =>
          rw [Rest, hcontinues, readFrom]
          split
          · simp [*]
          · split <;> simp [*]

/-- At its start a path may go on like any segment or with a bracket. -/
theorem written_iff {cs : List Char} {selectors : List Selector} :
    Written cs selectors ↔ cs = [] ∧ selectors = [] ∨ Rest .segmentStart cs selectors ∨
      ∃ rest, cs = '[' :: rest ∧ Rest (.inBracket 0 []) rest selectors := by
  constructor
  · intro h
    cases h with
    | empty => exact .inl ⟨rfl, rfl⟩
    | bracket first others =>
        exact .inr (.inr ⟨_, rfl, _, _, _, _, first.closing_not_mem, first, others, rfl, rfl⟩)
    | name first others => exact .inr (.inl ⟨_, _, _, first, others, rfl, rfl⟩)
  · rintro (⟨rfl, rfl⟩ | ⟨name, rest, others, hname, hrest, rfl, rfl⟩ |
      ⟨_, rfl, more, rest, selector, others, -, hinner, hrest, rfl, rfl⟩)
    · exact .empty
    · exact .name hname hrest
    · exact .bracket hinner hrest

/-- At the start of a path a bracket is allowed as well. -/
theorem readFrom_start_iff {cs : List Char} {selectors : List Selector} :
    readFrom .segmentStart 0 cs = .ok selectors ↔ Written cs selectors := by
  rw [written_iff]
  cases cs with
  | nil =>
      have hnone : ¬ Rest .segmentStart [] selectors := by
        rintro ⟨name, rest, others, hname, -, hcs, -⟩
        exact hname.1 (List.append_eq_nil_iff.mp hcs.symm).1
      simp [readFrom, hnone, eq_comm]
  | cons c cs =>
      rw [segmentStart_cons, isReserved_eq_false, readFrom]
      split
      · next hpoint => simp [hpoint]
      · next hpoint =>
        split
        · next hbracket =>
          rw [if_pos rfl, readFrom_iff (by simp)]
          simp [hbracket]
        · next hbracket =>
          split
          · next hclose => simp [hclose]
          · next hclose =>
            rw [readFrom_iff (by simp)]
            simp [hpoint, hbracket, hclose]

/-- A text is read as a path exactly if the grammar allows it, and as the selectors that the grammar
says. -/
theorem parse_iff {text : String} {path : RulePath} :
    parse text = .ok path ↔ path.text = text ∧ Written text.toList path.selectors := by
  rw [parse, map_ok_iff]
  constructor
  · rintro ⟨selectors, hread, rfl⟩
    exact ⟨rfl, readFrom_start_iff.mp hread⟩
  · rintro ⟨rfl, hwritten⟩
    exact ⟨path.selectors, readFrom_start_iff.mpr hwritten, rfl⟩

end TemplateAudit.RulePath
