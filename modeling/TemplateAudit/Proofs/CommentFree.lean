import TemplateAudit.Proofs.Layout
import TemplateAudit.Proofs.Reading

namespace TemplateAudit.Source

/-! # Texts without comments

What blanking leaves behind holds no comment any more, so that blanking it again changes nothing
(`blankFrom_again`). The second pass goes over the same text in step with the first one: it is in
the same strings, and where the first one was in a comment it meets only spaces and ends of lines.
A text that the JSON reader accepts holds no comment to begin with
(`Json.Document.blankFrom_written`).
-/

/-! ## Blanking again -/

/-- The region to which a character belongs once the comments are blanked. -/
def Region.blanked : Region → Region
  | .quoted => .quoted
  | .escaped => .escaped
  | .code | .lineComment | .blockStart | .blockComment _ => .code

/-- In code a step stays in code and keeps its character, unless this is a quote or a slash. -/
theorem Region.step_plain {c : Char} (hquote : c ≠ '"') (hslash : c ≠ '/') (next : Option Char) :
    Region.code.step c next = (.code, c) := by
  simp [Region.step, hquote, hslash]

/-- A blanked character is neither a quote nor a slash, so it leads nowhere. -/
theorem Region.step_blank (c : Char) (next : Option Char) :
    Region.code.step (blank c) next = (.code, blank c) := by
  apply Region.step_plain <;>
    · unfold blank
      split
      · next h => rcases h with rfl | rfl <;> decide
      · decide

/-- A slash opens no comment if the character behind it is the one that stood there before, or a
space. -/
theorem Region.step_code_again {c : Char} {next next' : Option Char}
    (hstay : Region.code.step c next = (.code, c)) (hnext : Option.Rel Blanked next next') :
    Region.code.step c next' = (.code, c) := by
  by_cases hquote : c = '"'
  · subst hquote
    cases hstay
  by_cases hslash : c = '/'
  · -- it is a slash that opened no comment; a space behind it opens none either
    subst hslash
    cases hnext with
    | none => rfl
    | @some x y hblanked =>
        rcases hblanked with rfl | ⟨rfl, -⟩
        · exact hstay
        · rfl
  · exact Region.step_plain hquote hslash next'

/-- The second pass makes of a blanked character what the first one made of it, and is in step with
the first one behind it. -/
theorem Region.step_again (region : Region) (c : Char) {next next' : Option Char}
    (hnext : Option.Rel Blanked next next') :
    region.blanked.step (region.step c next).2 next' =
      ((region.step c next).1.blanked, (region.step c next).2) := by
  cases region with
  | code =>
      by_cases hquote : c = '"'
      · subst hquote
        rfl
      by_cases hline : c = '/' ∧ next = some '/'
      · rcases hline with ⟨rfl, rfl⟩
        rfl
      by_cases hblock : c = '/' ∧ next = some '*'
      · rcases hblock with ⟨rfl, rfl⟩
        rfl
      -- neither a quote nor the opening of a comment, so the first pass stayed where it was
      have hstay : Region.code.step c next = (.code, c) := by
        simp [Region.step, hquote, hline, hblock]
      rw [hstay]
      exact Region.step_code_again hstay hnext
  | quoted =>
      by_cases hbackslash : c = '\\'
      · subst hbackslash
        rfl
      by_cases hquote : c = '"'
      · subst hquote
        rfl
      simp [Region.step, Region.blanked, hbackslash, hquote]
  | escaped => rfl
  -- in a comment the first pass leaves spaces and ends of lines, and the second one takes them as
  -- code
  | lineComment =>
      by_cases hend : c = '\n'
      · subst hend
        rfl
      simp only [Region.step, hend, if_false]
      exact Region.step_blank c next'
  | blockStart => rfl
  | blockComment star =>
      have hblanked : (Region.blockComment star).step c next = (_, blank c) := rfl
      rw [hblanked]
      split <;> exact Region.step_blank c next'

/-- A text whose comments are blanked is not changed by blanking. -/
theorem blankFrom_again {region : Region} {cs : List Char} (h : region.Fits cs) :
    blankFrom region.blanked (blankFrom region cs) = blankFrom region cs := by
  -- on the characters, with the second pass in the region that belongs to that of the first one
  induction cs generalizing region with
  | nil => rfl
  | cons c rest ih =>
      have hfits := region.step_fits c rest
      have hnext : Option.Rel Blanked rest.head?
          (blankFrom (region.step c rest.head?).1 rest).head? := by
        cases forall₂_blanked hfits with
        | nil => exact .none
        | cons hfirst _ => exact .some hfirst
      rw [blankFrom_cons, blankFrom_cons, region.step_again c hnext, ih hfits]

end TemplateAudit.Source

namespace TemplateAudit.Json

open Source (Region blankFrom blankFrom_append_plain blankFrom_token)

/-! ## Texts that the JSON reader accepts -/

/-- A mark is kept, and code goes on behind it. -/
theorem blankFrom_mark {c : Char} (single : isMark c = true) (rest : List Char) :
    blankFrom .code (c :: rest) = c :: blankFrom .code rest :=
  blankFrom_token (.mark c single) rest

/-- Blanks are kept as they are. -/
theorem Gap.blankFrom_chars (gap : Gap) (rest : List Char) :
    blankFrom .code (gap.chars ++ rest) = gap.chars ++ blankFrom .code rest := by
  apply blankFrom_append_plain
  intro c hc
  constructor <;>
    · rintro rfl
      exact absurd (gap.blank _ hc) (by decide)

/-- A string is kept with its quotes, whatever slashes are in it. -/
theorem Quoted.blankFrom_written (string : Quoted) (rest : List Char) :
    blankFrom .code (string.written ++ rest) = string.written ++ blankFrom .code rest :=
  blankFrom_token string.token rest

theorem Label.blankFrom_written (label : Label) (rest : List Char) :
    blankFrom .code (label.written ++ rest) = label.written ++ blankFrom .code rest := by
  simp only [Label.written, List.append_assoc, List.cons_append, Gap.blankFrom_chars,
    Quoted.blankFrom_written, blankFrom_mark (c := ':') rfl]

mutual

/-- Blanking goes over the text of a tree without finding a comment. -/
theorem Tree.blankFrom_written (rest : List Char) : (tree : Tree) →
    blankFrom .code (tree.written ++ rest) = tree.written ++ blankFrom .code rest
  | .scalar token => blankFrom_token token.token rest
  | .string token => token.blankFrom_written rest
  | .emptyArray gap => by
      simp only [Tree.written, List.append_assoc, List.cons_append, List.nil_append,
        Gap.blankFrom_chars, blankFrom_mark (c := '[') rfl, blankFrom_mark (c := ']') rfl]
  | .array items => by
      rw [Tree.written, List.cons_append, blankFrom_mark rfl, items.blankFrom_written,
        List.cons_append]
  | .emptyObject gap => by
      simp only [Tree.written, List.append_assoc, List.cons_append, List.nil_append,
        Gap.blankFrom_chars, blankFrom_mark (c := '{') rfl, blankFrom_mark (c := '}') rfl]
  | .object members => by
      rw [Tree.written, List.cons_append, blankFrom_mark rfl, members.blankFrom_written,
        List.cons_append]

/-- Nor is there a comment among the items of an array. -/
theorem Items.blankFrom_written (rest : List Char) : (items : Items) →
    blankFrom .code (items.written ++ rest) = items.written ++ blankFrom .code rest
  | .last before value after => by
      simp only [Items.written, List.append_assoc, List.cons_append, List.nil_append,
        Gap.blankFrom_chars, value.blankFrom_written, blankFrom_mark (c := ']') rfl]
  | .more before value after others => by
      simp only [Items.written, List.append_assoc, List.cons_append, Gap.blankFrom_chars,
        value.blankFrom_written, blankFrom_mark (c := ',') rfl, others.blankFrom_written]

/-- Nor among the members of an object. -/
theorem Members.blankFrom_written (rest : List Char) : (members : Members) →
    blankFrom .code (members.written ++ rest) = members.written ++ blankFrom .code rest
  | .last label value after => by
      simp only [Members.written, List.append_assoc, List.cons_append, List.nil_append,
        Label.blankFrom_written, Gap.blankFrom_chars, value.blankFrom_written,
        blankFrom_mark (c := '}') rfl]
  | .more label value after others => by
      simp only [Members.written, List.append_assoc, List.cons_append, Label.blankFrom_written,
        Gap.blankFrom_chars, value.blankFrom_written, blankFrom_mark (c := ',') rfl,
        others.blankFrom_written]

end

/-- The text of a document is not changed by blanking. -/
theorem Document.blankFrom_written (document : Document) :
    blankFrom .code document.written = document.written := by
  have htrail := document.trail.blankFrom_chars []
  have htree := document.tree.blankFrom_written document.trail.chars
  rw [List.append_nil] at htrail
  rw [Document.written, List.append_assoc, document.lead.blankFrom_chars, htree, htrail]
  simp [blankFrom]

end TemplateAudit.Json

namespace TemplateAudit.Source

open Json (Spaced Token)

/-! ## Texts -/

/-- Blanking comments twice is blanking them once. -/
theorem stripComments_again (text : String) :
    stripComments (stripComments text) = stripComments text := by
  apply String.toList_injective
  have hagain := blankFrom_again (Region.code_fits text.toList)
  rw [toList_stripComments, toList_stripComments]
  exact hagain

/-- What the JSON reader accepts has no comments. -/
theorem stripComments_of_parse {text : String} {value : Json} (h : Json.parse text = .ok value) :
    stripComments text = text := by
  -- the reader accepts texts of the grammar only
  rcases Json.parse_sound h with ⟨document, htext, -⟩
  apply String.toList_injective
  rw [toList_stripComments, htext, document.blankFrom_written]

/-- Blanking leaves every character of a text in its place. It keeps the number of characters; at
every position it leaves the character or puts a space, and the ends of lines stay where they are.
Blanking a second time changes nothing, nor does blanking a text that the JSON reader accepts. And
it blanks what it should: of a text that writes tokens with comments between them, the same tokens
are left with nothing but blanks between them. -/
theorem stripComments_in_place (text : String) :
    (stripComments text).length = text.length ∧
    (∀ n : Nat, (stripComments text).toList[n]? = text.toList[n]? ∨
      (stripComments text).toList[n]? = some ' ') ∧
    (∀ n : Nat, (stripComments text).toList[n]? = some '\n' ↔ text.toList[n]? = some '\n') ∧
    (∀ n : Nat, (stripComments text).toList[n]? = some '\r' ↔ text.toList[n]? = some '\r') ∧
    stripComments (stripComments text) = stripComments text ∧
    (∀ value, Json.parse text = .ok value → stripComments text = text) ∧
    ∀ tokens, Laid tokens text.toList → Spaced tokens (stripComments text).toList := by
  refine ⟨?_, ?_, ?_, ?_, stripComments_again text, fun value => stripComments_of_parse, ?_⟩
  · rw [← String.length_toList, toList_stripComments, length_blankFrom, String.length_toList]
  · intro n
    rcases getElem?_stripComments text n with ⟨hc, hd⟩ | ⟨c, d, hc, hd, rfl | ⟨rfl, -⟩⟩
    · exact .inl (hd.trans hc.symm)
    · exact .inl (hd.trans hc.symm)
    · exact .inr hd
  · intro n
    rcases getElem?_stripComments text n with ⟨hc, hd⟩ | ⟨c, d, hc, hd, hblanked⟩
    · simp [hc, hd]
    · simpa [hc, hd] using hblanked.newline_iff
  · intro n
    rcases getElem?_stripComments text n with ⟨hc, hd⟩ | ⟨c, d, hc, hd, hblanked⟩
    · simp [hc, hd]
    · simpa [hc, hd] using hblanked.carriageReturn_iff
  · intro tokens hlaid
    rw [toList_stripComments]
    exact hlaid.spaced

end TemplateAudit.Source
