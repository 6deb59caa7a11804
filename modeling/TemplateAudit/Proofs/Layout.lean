import TemplateAudit.Proofs.CommentBlanking
import TemplateAudit.Proofs.Respacing

namespace TemplateAudit.Source

open Json (Token Spaced Gap isSpace inWord StringBody)

/-! # Texts with comments

A text may write its tokens with any blanks and comments between them (`Laid`). Blanking the
comments goes over the text token by token and comment by comment: it leaves every token as it is,
whatever the strings contain, and makes a gap of every comment, whatever that contains
(`Laid.spaced`).
-/

/-! ## What may stand between tokens -/

/-- A blank, a comment with the line feed at its end, or a comment with its end. -/
inductive Filler where
  | blank (c : Char) (space : isSpace c = true)
  | line (body : List Char) (inside : '\n' ∉ body)
  | block (body : List Char) (inside : ¬ ['*', '/'] <:+: body)

/-- The characters between the tokens. -/
def Filler.written : Filler → List Char
  | .blank c _ => [c]
  | .line body _ => '/' :: '/' :: body ++ ['\n']
  | .block body _ => '/' :: '*' :: body ++ ['*', '/']

/-- A text that writes tokens, with blanks and comments before, between and after them. The last
line may end in a comment. Two words do not touch, since their characters would be one word. -/
inductive Laid : List Token → List Char → Prop where
  | done : Laid [] []
  | lastLine (body : List Char) (inside : '\n' ∉ body) : Laid [] ('/' :: '/' :: body)
  | filler (filler : Filler) {tokens : List Token} {rest : List Char} (more : Laid tokens rest) :
      Laid tokens (filler.written ++ rest)
  | token (token : Token) {tokens : List Token} {rest : List Char} (ends : token.EndsBefore rest)
      (more : Laid tokens rest) : Laid (token :: tokens) (token.written ++ rest)

/-! ## Blanking over tokens -/

/-- One character is blanked by the step that it takes, and the rest in the region that this leads
to. -/
theorem blankFrom_cons (region : Region) (c : Char) (rest : List Char) :
    blankFrom region (c :: rest) =
      (region.step c rest.head?).2 :: blankFrom (region.step c rest.head?).1 rest := rfl

/-- Outside of strings and comments only quotes and slashes lead elsewhere. -/
theorem blankFrom_plain {c : Char} (hquote : c ≠ '"') (hslash : c ≠ '/') (rest : List Char) :
    blankFrom .code (c :: rest) = c :: blankFrom .code rest := by
  simp [blankFrom_cons, Region.step, hquote, hslash]

/-- Characters that are no quotes and no slashes stay as they are outside of strings and comments.
-/
theorem blankFrom_append_plain {cs : List Char} (h : ∀ c ∈ cs, c ≠ '"' ∧ c ≠ '/')
    (rest : List Char) : blankFrom .code (cs ++ rest) = cs ++ blankFrom .code rest := by
  induction cs with
  | nil => rfl
  | cons c cs ih =>
      rcases h c (by simp) with ⟨hquote, hslash⟩
      have hrest := ih fun d hd => h d (by simp [hd])
      rw [List.cons_append, blankFrom_plain hquote hslash, hrest, List.cons_append]

/-- A word stays as it is. -/
theorem blankFrom_word {word : List Char} (hword : ∀ c ∈ word, inWord c = true)
    (rest : List Char) : blankFrom .code (word ++ rest) = word ++ blankFrom .code rest := by
  apply blankFrom_append_plain
  intro c hc
  constructor <;>
    · rintro rfl
      exact absurd (hword _ hc) (by decide)

/-- Inside a string nothing is blanked, up to the quote that ends it. -/
theorem blankFrom_body {body : List Char} (hbody : StringBody body) (rest : List Char) :
    blankFrom .quoted (body ++ '"' :: rest) = body ++ '"' :: blankFrom .code rest := by
  induction hbody with
  | nil => rfl
  | plain quote backslash more ih =>
      simp [blankFrom_cons, Region.step, quote, backslash, ih]
  | escaped c more ih =>
      -- the backslash takes a quote along, so the string goes on behind both
      simp [blankFrom_cons, Region.step, ih]

/-- A token stays as it is, and what follows it is outside of strings and comments again. -/
theorem blankFrom_token (token : Token) (rest : List Char) :
    blankFrom .code (token.written ++ rest) = token.written ++ blankFrom .code rest := by
  -- a string may hold quotes behind backslashes and what looks like a comment; the other tokens are
  -- plain
  cases token with
  | mark c single =>
      have hquote : c ≠ '"' := by
        rintro rfl
        exact absurd single (by decide)
      have hslash : c ≠ '/' := by
        rintro rfl
        exact absurd single (by decide)
      exact blankFrom_plain hquote hslash rest
  | string body closed =>
      have hbody := blankFrom_body closed rest
      simp [Token.written, blankFrom_cons, Region.step, hbody]
  | word first more plain => exact blankFrom_word plain rest

/-- A token that is over stays so when what follows it is blanked. -/
theorem endsBefore_blankFrom {token : Token} {rest : List Char} (h : token.EndsBefore rest) :
    token.EndsBefore (blankFrom .code rest) := by
  cases token with
  | mark c single => trivial
  | string body closed => trivial
  | word first more plain =>
      intro c hc
      -- what follows the word stays or turns into a space
      rcases rest with _ | ⟨d, rest⟩
      · cases hc
      · have hd : inWord d = false := h d (by simp)
        obtain rfl : (Region.code.step d rest.head?).2 = c := by simpa [blankFrom_cons] using hc
        have hstep := Region.step_blanked (Region.code_fits (d :: rest)) rest.head?
        rcases hstep with hsame | ⟨hspace, -⟩
        · rw [hsame, hd]
        · rw [hspace]
          rfl

/-! ## Blanking over comments -/

/-- What a character is blanked to is a blank. -/
theorem isSpace_blank (c : Char) : isSpace (blank c) = true := by
  unfold blank
  split
  · next h => rcases h with rfl | rfl <;> rfl
  · rfl

/-- The gap that blanking makes of some characters. -/
def blanks (cs : List Char) : Gap where
  chars := cs.map blank
  blank c hc := by
    rcases List.mem_map.mp hc with ⟨d, -, rfl⟩
    exact isSpace_blank d

/-- Two slashes open a comment up to the end of the line. -/
theorem blankFrom_openLine (rest : List Char) :
    blankFrom .code ('/' :: '/' :: rest) = ' ' :: ' ' :: blankFrom .lineComment rest := rfl

/-- A slash and a star open a block comment, and this star does not count for its end. -/
theorem blankFrom_openBlock (rest : List Char) :
    blankFrom .code ('/' :: '*' :: rest) = ' ' :: ' ' :: blankFrom (.blockComment false) rest := rfl

/-- A line feed ends the comment of its line and stays. -/
theorem blankFrom_lineFeed (rest : List Char) :
    blankFrom .lineComment ('\n' :: rest) = '\n' :: blankFrom .code rest := rfl

/-- The rest of a line is blanked. -/
theorem blankFrom_line {body : List Char} (hbody : '\n' ∉ body) (rest : List Char) :
    blankFrom .lineComment (body ++ rest) = body.map blank ++ blankFrom .lineComment rest := by
  induction body with
  | nil => rfl
  | cons c body ih =>
      have hc : c ≠ '\n' := fun h => hbody (by simp [h])
      have hrest := ih fun h => hbody (by simp [h])
      simp [blankFrom_cons, Region.step, hc, hrest]

/-- A block comment goes on to its first star with a slash behind it. -/
theorem blankFrom_block (star : Bool) {body : List Char}
    (hbody : ¬ ['*', '/'] <:+: (if star then ['*'] else []) ++ body) (rest : List Char) :
    blankFrom (.blockComment star) (body ++ '*' :: '/' :: rest) =
      (body ++ ['*', '/']).map blank ++ blankFrom .code rest := by
  induction body generalizing star with
  | nil => simp [blankFrom_cons, Region.step]
  | cons c body ih =>
      have hopen : ¬ (star = true ∧ c = '/') := by
        rintro ⟨rfl, rfl⟩
        exact hbody ⟨[], body, rfl⟩
      -- of what was read only a star just before matters for the rest
      have hmore : ¬ ['*', '/'] <:+: (if decide (c = '*') then ['*'] else []) ++ body := by
        intro hinfix
        apply hbody
        have hsuffix : (if decide (c = '*') then ['*'] else []) ++ body <:+
            (if star then ['*'] else []) ++ c :: body := by
          by_cases hstar : c = '*'
          · exact ⟨if star then ['*'] else [], by simp [hstar]⟩
          · exact ⟨(if star then ['*'] else []) ++ [c], by simp [hstar]⟩
        exact hinfix.trans hsuffix.isInfix
      simp [blankFrom_cons, Region.step, hopen, ih _ hmore]

/-- A comment becomes a gap, and what follows it is outside of comments. -/
theorem blankFrom_filler (filler : Filler) (rest : List Char) :
    ∃ gap : Gap, blankFrom .code (filler.written ++ rest) = gap.chars ++ blankFrom .code rest := by
  cases filler with
  | blank c space =>
      have hquote : c ≠ '"' := by
        rintro rfl
        exact absurd space (by decide)
      have hslash : c ≠ '/' := by
        rintro rfl
        exact absurd space (by decide)
      exact ⟨⟨[c], by simpa using space⟩, blankFrom_plain hquote hslash rest⟩
  | line body inside =>
      refine ⟨blanks ('/' :: '/' :: body ++ ['\n']), ?_⟩
      have hline := blankFrom_line inside ('\n' :: rest)
      simp only [Filler.written, List.append_assoc, List.cons_append, List.nil_append]
      rw [blankFrom_openLine, hline, blankFrom_lineFeed]
      simp [blanks, blank]
  | block body inside =>
      refine ⟨blanks ('/' :: '*' :: body ++ ['*', '/']), ?_⟩
      have hblock := blankFrom_block false inside rest
      simp only [Filler.written, List.append_assoc, List.cons_append, List.nil_append]
      rw [blankFrom_openBlock, hblock]
      simp [blanks, blank]

/-- Without the comments the same tokens are written, with blanks between them. -/
theorem Laid.spaced {tokens : List Token} {cs : List Char} (h : Laid tokens cs) :
    Spaced tokens (blankFrom .code cs) := by
  -- over what is written; every step leaves the scanner outside of strings and comments
  induction h with
  | done => exact .done
  | lastLine body inside =>
      have hline := blankFrom_line inside []
      have hgap := Spaced.done.gap_append (blanks ('/' :: '/' :: body))
      rw [List.append_nil] at hline hgap
      rw [blankFrom_openLine, hline]
      simpa [blanks, blank, blankFrom] using hgap
  | @filler filler _ rest more ih =>
      rcases blankFrom_filler filler rest with ⟨gap, hgap⟩
      rw [hgap]
      exact ih.gap_append gap
  | @token token _ rest ends more ih =>
      rw [blankFrom_token]
      exact .token (endsBefore_blankFrom ends) ih

end TemplateAudit.Source
