import TemplateAudit.Proofs.SyntaxTree

namespace TemplateAudit.Json

open Source.Place (endsScalar)

/-! # Texts as tokens with blanks between them

A text that writes tokens with blanks between them (`Spaced`) writes no other tokens, since the
token at the front of a text can be told from the text (`Token.cut`): a string ends at its first
quote that is not escaped, and a word where no character of a word follows.
-/

/-! ## Tokens -/

/-- Whether a character stands for itself. -/
def isMark (c : Char) : Bool :=
  c = '[' || c = ']' || c = '{' || c = '}' || c = ':' || c = ','

/-- What may stand between two quotes: a backslash takes the next character along, and no quote is
left over. -/
inductive StringBody : List Char → Prop where
  | nil : StringBody []
  | plain {c : Char} {rest : List Char} (quote : c ≠ '"') (backslash : c ≠ '\\')
      (more : StringBody rest) : StringBody (c :: rest)
  | escaped (c : Char) {rest : List Char} (more : StringBody rest) : StringBody ('\\' :: c :: rest)

/-- A token of JSON text. Words are numbers and `true`, `false` and `null`, but also what is none of
these. -/
inductive Token where
  | mark (c : Char) (single : isMark c = true)
  | string (body : List Char) (closed : StringBody body)
  | word (first : Char) (more : List Char) (plain : ∀ c ∈ first :: more, inWord c = true)

namespace Token

/-- The characters of a token. -/
def written : Token → List Char
  | .mark c _ => [c]
  | .string body _ => '"' :: body ++ ['"']
  | .word first more _ => first :: more

/-- The token is over where `rest` begins: a word would go on with characters of words. -/
def EndsBefore : Token → List Char → Prop
  | .mark _ _, _ => True
  | .string _ _, _ => True
  | .word _ _ _, rest => ∀ c ∈ rest.head?, inWord c = false

end Token

instance : (token : Token) → (rest : List Char) → Decidable (token.EndsBefore rest)
  | .mark _ _, _ => isTrue trivial
  | .string _ _, _ => isTrue trivial
  | .word _ _ _, [] => isTrue nofun
  | .word _ _ _, c :: _ =>
    decidable_of_iff (inWord c = false) (by simp [Token.EndsBefore])

/-- Marks end words. -/
theorem inWord_of_mark {c : Char} (h : isMark c = true) : inWord c = false := by
  simp only [isMark, Bool.or_eq_true, decide_eq_true_eq] at h
  rcases h with ((((rfl | rfl) | rfl) | rfl) | rfl) | rfl <;> rfl

/-- Marks are no blanks. -/
theorem isSpace_of_mark {c : Char} (h : isMark c = true) : isSpace c = false := by
  simp only [isMark, Bool.or_eq_true, decide_eq_true_eq] at h
  rcases h with ((((rfl | rfl) | rfl) | rfl) | rfl) | rfl <;> rfl

theorem inWord_of_endsScalar {c : Char} (h : endsScalar c = true) : inWord c = false := by
  simp [inWord, h]

theorem isSpace_of_inWord {c : Char} (h : inWord c = true) : isSpace c = false :=
  isSpace_of_not_endsScalar (endsScalar_of_inWord h)

/-- A string body ends at the first quote that is left over. -/
theorem StringBody.cut {a b r s : List Char} (ha : StringBody a) (hb : StringBody b)
    (h : a ++ '"' :: r = b ++ '"' :: s) : a = b ∧ r = s := by
  -- along one body; the other has to go on in the same way at each character
  induction ha generalizing b with
  | nil =>
      cases hb with
      | nil => exact ⟨rfl, by simpa using h⟩
      | plain quote backslash more => exact absurd (List.cons_eq_cons.mp h).1.symm quote
      | escaped c more => exact absurd (List.cons_eq_cons.mp h).1 (by decide)
  | plain quote backslash more ih =>
      cases hb with
      | nil => exact absurd (List.cons_eq_cons.mp h).1 quote
      | plain quote' backslash' more' =>
          rcases List.cons_eq_cons.mp h with ⟨rfl, htail⟩
          rcases ih more' htail with ⟨rfl, hrest⟩
          exact ⟨rfl, hrest⟩
      | escaped c more' => exact absurd (List.cons_eq_cons.mp h).1 backslash
  | escaped c more ih =>
      cases hb with
      | nil => exact absurd (List.cons_eq_cons.mp h).1 (by decide)
      | plain quote' backslash' more' =>
          exact absurd (List.cons_eq_cons.mp h).1.symm backslash'
      | escaped c' more' =>
          rcases List.cons_eq_cons.mp (List.cons_eq_cons.mp h).2 with ⟨rfl, htail⟩
          rcases ih more' htail with ⟨rfl, hrest⟩
          exact ⟨rfl, hrest⟩

namespace Token

/-- A token starts with a character that is no blank. -/
theorem written_front (token : Token) :
    ∃ c more, token.written = c :: more ∧ isSpace c = false := by
  cases token with
  | mark c single => exact ⟨c, [], rfl, isSpace_of_mark single⟩
  | string body closed => exact ⟨'"', body ++ ['"'], rfl, rfl⟩
  | word first more plain => exact ⟨first, more, rfl, isSpace_of_inWord (plain first (by simp))⟩

/-- The characters of words at the front of a text. -/
theorem takeWhile_word {word rest : List Char} (hword : ∀ c ∈ word, inWord c = true)
    (hrest : ∀ c ∈ rest.head?, inWord c = false) : (word ++ rest).takeWhile inWord = word := by
  rw [List.takeWhile_append_of_pos hword]
  cases rest with
  | nil => simp
  | cons c rest => simp [hrest c (by simp)]

/-- The token at the front of a text can be told from the text. -/
theorem cut {a b : Token} {r s : List Char} (ha : a.EndsBefore r) (hb : b.EndsBefore s)
    (h : a.written ++ r = b.written ++ s) : a = b ∧ r = s := by
  -- tokens of different kinds start with different characters
  cases a with
  | mark c single =>
      cases b with
      | mark d single' =>
          obtain ⟨rfl, hrest⟩ : c = d ∧ r = s := by simpa [written] using h
          exact ⟨rfl, hrest⟩
      | string body closed =>
          obtain ⟨rfl, -⟩ : c = '"' ∧ _ := List.cons_eq_cons.mp h
          exact absurd single (by decide)
      | word first more plain =>
          obtain ⟨rfl, -⟩ : c = first ∧ _ := List.cons_eq_cons.mp h
          exact absurd (plain c (by simp)) (by simp [inWord_of_mark single])
  | string body closed =>
      cases b with
      | mark d single' =>
          obtain ⟨rfl, -⟩ : '"' = d ∧ _ := List.cons_eq_cons.mp h
          exact absurd single' (by decide)
      | string body' closed' =>
          have hbodies : body ++ '"' :: r = body' ++ '"' :: s := by simpa [written] using h
          rcases closed.cut closed' hbodies with ⟨rfl, hrest⟩
          exact ⟨rfl, hrest⟩
      | word first more plain =>
          obtain ⟨rfl, -⟩ : '"' = first ∧ _ := List.cons_eq_cons.mp h
          exact absurd (plain '"' (by simp)) (by decide)
  | word first more plain =>
      cases b with
      | mark d single' =>
          obtain ⟨rfl, -⟩ : first = d ∧ _ := List.cons_eq_cons.mp h
          exact absurd (plain first (by simp)) (by simp [inWord_of_mark single'])
      | string body closed =>
          obtain ⟨rfl, -⟩ : first = '"' ∧ _ := List.cons_eq_cons.mp h
          exact absurd (plain '"' (by simp)) (by decide)
      | word first' more' plain' =>
          -- both words are the longest ones at the front of the same text
          have hwords : first :: more = first' :: more' := by
            have hleft := takeWhile_word plain ha
            have hright := takeWhile_word plain' hb
            have htexts : first :: more ++ r = first' :: more' ++ s := h
            rw [← hleft, htexts, hright]
          rcases List.cons_eq_cons.mp hwords with ⟨rfl, rfl⟩
          exact ⟨rfl, List.append_cancel_left h⟩

end Token

/-! ## Tokens with blanks between them -/

/-- A text that writes tokens, with nothing but blanks before, between and after them. -/
inductive Spaced : List Token → List Char → Prop where
  | done : Spaced [] []
  | blank {c : Char} {tokens : List Token} {rest : List Char} (space : isSpace c = true)
      (more : Spaced tokens rest) : Spaced tokens (c :: rest)
  | token {token : Token} {tokens : List Token} {rest : List Char} (ends : token.EndsBefore rest)
      (more : Spaced tokens rest) : Spaced (token :: tokens) (token.written ++ rest)

namespace Spaced

/-- A gap may stand in front. -/
theorem gap_append (gap : Gap) {tokens : List Token} {rest : List Char} (h : Spaced tokens rest) :
    Spaced tokens (gap.chars ++ rest) := by
  rcases gap with ⟨chars, hblank⟩
  induction chars with
  | nil => exact h
  | cons c chars ih =>
      have hmore : Spaced tokens (chars ++ rest) := ih fun d hd => hblank d (by simp [hd])
      exact .blank (hblank c (by simp)) hmore

/-- A blank writes no token. -/
theorem of_blank {c : Char} {tokens : List Token} {rest : List Char} (hc : isSpace c = true)
    (h : Spaced tokens (c :: rest)) : Spaced tokens rest := by
  -- the text is named so that its form can be told from the way it was written
  generalize hcs : c :: rest = cs at h
  cases h with
  | done => cases hcs
  | blank space more =>
      rwa [(List.cons_eq_cons.mp hcs).2]
  | @token token _ _ ends more =>
      rcases token.written_front with ⟨d, front, hfront, hd⟩
      rw [hfront] at hcs
      rw [(List.cons_eq_cons.mp hcs).1, hd] at hc
      cases hc

/-- A gap writes no token. -/
theorem of_gap (gap : Gap) {tokens : List Token} {rest : List Char}
    (h : Spaced tokens (gap.chars ++ rest)) : Spaced tokens rest := by
  rcases gap with ⟨chars, hblank⟩
  induction chars with
  | nil => exact h
  | cons c chars ih =>
      exact ih (fun d hd => hblank d (by simp [hd])) (of_blank (hblank c (by simp)) h)

/-- A text that begins with a token writes that token first. -/
theorem of_token {token : Token} {tokens : List Token} {rest : List Char}
    (ends : token.EndsBefore rest) (h : Spaced tokens (token.written ++ rest)) :
    ∃ others, tokens = token :: others ∧ Spaced others rest := by
  generalize hcs : token.written ++ rest = cs at h
  cases h with
  | done =>
      rcases token.written_front with ⟨d, front, hfront, -⟩
      rw [hfront] at hcs
      cases hcs
  | blank space more =>
      rcases token.written_front with ⟨d, front, hfront, hd⟩
      rw [hfront] at hcs
      rw [(List.cons_eq_cons.mp hcs).1, space] at hd
      cases hd
  | token ends' more =>
      -- both ways of writing the text start with a token, and the text says which
      rcases Token.cut ends ends' hcs with ⟨rfl, rfl⟩
      exact ⟨_, rfl, more⟩

/-- The first token stands behind a gap. -/
theorem exists_first {token : Token} {tokens : List Token} {cs : List Char}
    (h : Spaced (token :: tokens) cs) :
    ∃ (gap : Gap) (rest : List Char), cs = gap.chars ++ (token.written ++ rest) ∧
      Spaced tokens rest := by
  generalize hall : token :: tokens = all at h
  induction h with
  | done => cases hall
  | @blank c _ _ space more ih =>
      rcases ih hall with ⟨gap, rest, hcs, hrest⟩
      have hblank : ∀ d ∈ c :: gap.chars, isSpace d = true :=
        List.forall_mem_cons.mpr ⟨space, gap.blank⟩
      exact ⟨⟨c :: gap.chars, hblank⟩, rest, by rw [hcs, List.cons_append], hrest⟩
  | @token first _ rest ends more =>
      rcases List.cons_eq_cons.mp hall with ⟨rfl, rfl⟩
      exact ⟨.none, rest, rfl, more⟩

/-- Without tokens there is only a gap. -/
theorem exists_gap {cs : List Char} (h : Spaced [] cs) : ∃ gap : Gap, cs = gap.chars := by
  generalize hall : ([] : List Token) = all at h
  induction h with
  | done => exact ⟨.none, rfl⟩
  | @blank c _ _ space more ih =>
      rcases ih hall with ⟨gap, hcs⟩
      have hblank : ∀ d ∈ c :: gap.chars, isSpace d = true :=
        List.forall_mem_cons.mpr ⟨space, gap.blank⟩
      exact ⟨⟨c :: gap.chars, hblank⟩, by rw [hcs]⟩
  | token ends more => cases hall

/-- No text writes no tokens but those of none. -/
theorem eq_nil {tokens : List Token} (h : Spaced tokens []) : tokens = [] := by
  generalize hcs : ([] : List Char) = cs at h
  cases h with
  | done => rfl
  | blank space more => cases hcs
  | @token token _ _ ends more =>
      rcases token.written_front with ⟨d, front, hfront, -⟩
      rw [hfront] at hcs
      cases hcs

end Spaced

end TemplateAudit.Json
