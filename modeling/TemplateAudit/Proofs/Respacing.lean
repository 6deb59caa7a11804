import TemplateAudit.Proofs.Tokens

namespace TemplateAudit.Json

open Source (Place)
open Source.Place (closeString)

/-! # Other gaps for the tokens of a document

The text of a tree writes the tokens of the tree (`Tree.yields`). The other way round, a text that
writes the tokens of a tree is the text of a tree that differs from it only in its gaps
(`Tree.respaced`), and so has the same value, the same depth and values at the same locations. What
holds of the tree holds of the whole document (`Document.respaced`).
-/

/-! ## The tokens of a tree -/

/-- What the scan takes up to a quote is the body of a string. -/
theorem stringBody_of_closeString {body rest : List Char} {line : Nat} {after : Place}
    (h : closeString line (body ++ '"' :: rest) = some (body, after)) : StringBody body := by
  match body with
  | [] => exact .nil
  | c :: more =>
      rw [List.cons_append] at h
      unfold closeString at h
      by_cases hquote : c = '"'
      · -- the string would be over before this quote
        simp [hquote] at h
      by_cases hbackslash : c = '\\'
      · subst hbackslash
        cases more with
        | nil => simp at h
        | cons d more =>
            refine .escaped d ?_
            have hmore : closeString (Place.lineAfter line d) (more ++ '"' :: rest) =
                some (more, after) := by
              simpa using h
            exact stringBody_of_closeString hmore
      · refine .plain hquote hbackslash ?_
        have hmore : closeString (Place.lineAfter line c) (more ++ '"' :: rest) =
            some (more, after) := by
          simpa [hquote, hbackslash] using h
        exact stringBody_of_closeString hmore

/-- The body of a string ends at its quote and not before. -/
theorem Quoted.body_closed (string : Quoted) : StringBody string.body :=
  stringBody_of_closeString (closeString_of_passes string.passes_and_decodes.1 1 [])

/-- The string with its quotes is one token. -/
def Quoted.token (string : Quoted) : Token :=
  .string string.body string.body_closed

/-- The number or word is one token. -/
def Scalar.token (scalar : Scalar) : Token :=
  .word scalar.first scalar.more scalar.inWord_of_mem

/-- The tokens of a label. -/
def Label.tokens (label : Label) : List Token :=
  [label.key.token, .mark ':' rfl]

mutual

/-- The tokens of a value. -/
def Tree.tokens : Tree → List Token
  | .scalar token => [token.token]
  | .string token => [token.token]
  | .emptyArray _ => [.mark '[' rfl, .mark ']' rfl]
  | .array items => .mark '[' rfl :: items.tokens
  | .emptyObject _ => [.mark '{' rfl, .mark '}' rfl]
  | .object members => .mark '{' rfl :: members.tokens

/-- The tokens of the items and the closing bracket. -/
def Items.tokens : Items → List Token
  | .last _ value _ => value.tokens ++ [.mark ']' rfl]
  | .more _ value _ rest => value.tokens ++ .mark ',' rfl :: rest.tokens

/-- The tokens of the members and the closing brace. -/
def Members.tokens : Members → List Token
  | .last label value _ => label.tokens ++ (value.tokens ++ [.mark '}' rfl])
  | .more label value _ rest => label.tokens ++ (value.tokens ++ .mark ',' rfl :: rest.tokens)

end

/-- Whatever tokens a text writes, they begin with these, and `rest` writes the others. -/
def Yields (cs : List Char) (front : List Token) (rest : List Char) : Prop :=
  ∀ ⦃tokens⦄, Spaced tokens cs → ∃ others, tokens = front ++ others ∧ Spaced others rest

namespace Yields

/-- Without tokens the text itself is left. -/
theorem none (rest : List Char) : Yields rest [] rest :=
  fun tokens htokens => ⟨tokens, rfl, htokens⟩

/-- Some tokens and then others. -/
theorem trans {cs middle rest : List Char} {front others : List Token}
    (h : Yields cs front middle) (h' : Yields middle others rest) :
    Yields cs (front ++ others) rest := by
  intro tokens htokens
  rcases h htokens with ⟨behind, rfl, hmiddle⟩
  rcases h' hmiddle with ⟨last, rfl, hrest⟩
  exact ⟨last, by simp, hrest⟩

/-- A gap in front of a text writes no token. -/
theorem gap (gap : Gap) {cs rest : List Char} {front : List Token} (h : Yields cs front rest) :
    Yields (gap.chars ++ cs) front rest :=
  fun _ htokens => h (htokens.of_gap gap)

/-- A token that is over is the first one of any list that the text writes. -/
theorem token (token : Token) {rest : List Char} (ends : token.EndsBefore rest) :
    Yields (token.written ++ rest) [token] rest :=
  fun _ htokens => htokens.of_token ends

theorem mark {c : Char} (single : isMark c = true) (rest : List Char) :
    Yields (c :: rest) [.mark c single] rest :=
  token (.mark c single) trivial

end Yields

/-- A label writes its key and a colon. -/
theorem Label.yields (label : Label) (rest : List Char) :
    Yields (label.written ++ rest) label.tokens rest := by
  have hcolon := (Yields.mark (c := ':') rfl (label.beforeValue.chars ++ rest)).trans
    ((Yields.none rest).gap label.beforeValue)
  have hkey := (Yields.token label.key.token trivial).trans (hcolon.gap label.afterKey)
  simp only [Label.written, List.append_assoc, List.cons_append]
  exact hkey.gap label.before

mutual

/-- The text of a tree writes the tokens of the tree. -/
theorem Tree.yields : (tree : Tree) → ∀ (rest : List Char), Ends rest →
    Yields (tree.written ++ rest) tree.tokens rest
  | .scalar token => by
      intro rest hrest
      -- only a word depends on what follows it; the other tokens end by themselves
      have hends : token.token.EndsBefore rest := fun c hc => inWord_of_endsScalar (hrest c hc)
      exact .token token.token hends
  | .string token => by
      intro rest hrest
      exact .token token.token trivial
  | .emptyArray gap => by
      intro rest hrest
      simp only [Tree.written, List.cons_append, List.append_assoc, List.nil_append]
      exact (Yields.mark rfl _).trans ((Yields.mark rfl rest).gap gap)
  | .array items => by
      intro rest hrest
      exact (Yields.mark rfl _).trans (items.yields rest)
  | .emptyObject gap => by
      intro rest hrest
      simp only [Tree.written, List.cons_append, List.append_assoc, List.nil_append]
      exact (Yields.mark rfl _).trans ((Yields.mark rfl rest).gap gap)
  | .object members => by
      intro rest hrest
      exact (Yields.mark rfl _).trans (members.yields rest)

/-- Items write the tokens of their values, with marks between them and behind the last. -/
theorem Items.yields : (items : Items) → ∀ (rest : List Char),
    Yields (items.written ++ rest) items.tokens rest
  | .last before value after => by
      intro rest
      -- a word may end before the gap and the mark that follow
      have hvalue := value.yields (after.chars ++ ']' :: rest) (after.ends_append (ends_cons rfl _))
      simp only [Items.written, List.append_assoc, List.cons_append, List.nil_append]
      exact (hvalue.trans ((Yields.mark rfl rest).gap after)).gap before
  | .more before value after others => by
      intro rest
      have hvalue := value.yields (after.chars ++ ',' :: (others.written ++ rest))
        (after.ends_append (ends_cons rfl _))
      have hothers := (Yields.mark (c := ',') rfl _).trans (others.yields rest)
      simp only [Items.written, List.append_assoc, List.cons_append]
      exact (hvalue.trans (hothers.gap after)).gap before

/-- Members write the tokens of their labels and values, with marks between them and behind the
last. -/
theorem Members.yields : (members : Members) → ∀ (rest : List Char),
    Yields (members.written ++ rest) members.tokens rest
  | .last label value after => by
      intro rest
      have hvalue := value.yields (after.chars ++ '}' :: rest) (after.ends_append (ends_cons rfl _))
      simp only [Members.written, List.append_assoc, List.cons_append, List.nil_append]
      exact (label.yields _).trans (hvalue.trans ((Yields.mark rfl rest).gap after))
  | .more label value after others => by
      intro rest
      have hvalue := value.yields (after.chars ++ ',' :: (others.written ++ rest))
        (after.ends_append (ends_cons rfl _))
      have hothers := (Yields.mark (c := ',') rfl _).trans (others.yields rest)
      simp only [Members.written, List.append_assoc, List.cons_append]
      exact (label.yields _).trans (hvalue.trans (hothers.gap after))

end

/-! ## Trees without their gaps -/

/-- The label without its gaps. -/
def Label.bare (label : Label) : Label :=
  ⟨.none, label.key, .none, .none⟩

mutual

/-- The tree without its gaps. -/
def Tree.bare : Tree → Tree
  | .scalar token => .scalar token
  | .string token => .string token
  | .emptyArray _ => .emptyArray .none
  | .array items => .array items.bare
  | .emptyObject _ => .emptyObject .none
  | .object members => .object members.bare

/-- The items without their gaps. -/
def Items.bare : Items → Items
  | .last _ value _ => .last .none value.bare .none
  | .more _ value _ rest => .more .none value.bare .none rest.bare

/-- The members without their gaps. -/
def Members.bare : Members → Members
  | .last label value _ => .last label.bare value.bare .none
  | .more label value _ rest => .more label.bare value.bare .none rest.bare

end

mutual

/-- Gaps do not matter for the value. -/
theorem Tree.value_bare : (tree : Tree) → tree.bare.value = tree.value
  | .scalar _ => rfl
  | .string _ => rfl
  | .emptyArray _ => rfl
  | .array items => by rw [Tree.bare, Tree.value, Tree.value, items.values_bare]
  | .emptyObject _ => rfl
  | .object members => by rw [Tree.bare, Tree.value, Tree.value, members.pairs_bare]

theorem Items.values_bare : (items : Items) → items.bare.values = items.values
  | .last _ value _ => by rw [Items.bare, Items.values, Items.values, value.value_bare]
  | .more _ value _ rest => by
      rw [Items.bare, Items.values, Items.values, value.value_bare, rest.values_bare]

theorem Members.pairs_bare : (members : Members) → members.bare.pairs = members.pairs
  | .last label value _ => by
      rw [Members.bare, Members.pairs, Members.pairs, value.value_bare]
      rfl
  | .more label value _ rest => by
      rw [Members.bare, Members.pairs, Members.pairs, value.value_bare, rest.pairs_bare]
      rfl

end

mutual

/-- Gaps do not matter for the depth. -/
theorem Tree.depth_bare : (tree : Tree) → tree.bare.depth = tree.depth
  | .scalar _ => rfl
  | .string _ => rfl
  | .emptyArray _ => rfl
  | .array items => by rw [Tree.bare, Tree.depth, Tree.depth, items.depth_bare]
  | .emptyObject _ => rfl
  | .object members => by rw [Tree.bare, Tree.depth, Tree.depth, members.depth_bare]

theorem Items.depth_bare : (items : Items) → items.bare.depth = items.depth
  | .last _ value _ => by rw [Items.bare, Items.depth, Items.depth, value.depth_bare]
  | .more _ value _ rest => by
      rw [Items.bare, Items.depth, Items.depth, value.depth_bare, rest.depth_bare]

theorem Members.depth_bare : (members : Members) → members.bare.depth = members.depth
  | .last _ value _ => by rw [Members.bare, Members.depth, Members.depth, value.depth_bare]
  | .more _ value _ rest => by
      rw [Members.bare, Members.depth, Members.depth, value.depth_bare, rest.depth_bare]

end

mutual

/-- The same locations are written, wherever in a text the tree stands. -/
theorem Tree.spots_bare : (tree : Tree) → ∀ (location : Location) (before before' : List Char),
    (tree.bare.spots location before).map Prod.fst = (tree.spots location before').map Prod.fst
  | .scalar _ => fun _ _ _ => rfl
  | .string _ => fun _ _ _ => rfl
  | .emptyArray _ => fun _ _ _ => rfl
  | .array items => fun location _ _ => items.spots_bare location 0 _ _
  | .emptyObject _ => fun _ _ _ => rfl
  | .object members => fun location _ _ => members.spots_bare location _ _

theorem Items.spots_bare : (items : Items) → ∀ (location : Location) (position : Nat)
    (before before' : List Char), (items.bare.spots location position before).map Prod.fst =
      (items.spots location position before').map Prod.fst
  | .last gap value after => by
      intro location position before before'
      simp only [Items.bare, Items.spots, List.map_cons]
      -- what stands before a place is forgotten, so it need not be the same on both sides
      rw [value.spots_bare]
  | .more gap value after others => by
      intro location position before before'
      simp only [Items.bare, Items.spots, List.map_cons, List.map_append]
      rw [value.spots_bare, others.spots_bare]

theorem Members.spots_bare : (members : Members) → ∀ (location : Location)
    (before before' : List Char), (members.bare.spots location before).map Prod.fst =
      (members.spots location before').map Prod.fst
  | .last label value after => by
      intro location before before'
      simp only [Members.bare, Members.spots, List.map_cons]
      rw [value.spots_bare]
      rfl
  | .more label value after others => by
      intro location before before'
      simp only [Members.bare, Members.spots, List.map_cons, List.map_append]
      rw [value.spots_bare, others.spots_bare]
      rfl

end

/-! ## Other gaps for the same tokens -/

/-- A text that writes the tokens of a label first begins with that label up to the gaps, the last
of which ends where the value begins. -/
theorem Label.respaced (label : Label) {others : List Token} {cs : List Char}
    (h : Spaced (label.tokens ++ others) cs) :
    ∃ (before gap : Gap) (rest : List Char), Spaced others rest ∧
      ∀ (beforeValue : Gap) (more : List Char), rest = beforeValue.chars ++ more →
        cs = (Label.mk before label.key gap beforeValue).written ++ more := by
  rcases h.exists_first with ⟨before, afterKey, hcs, hkey⟩
  rcases hkey.exists_first with ⟨gap, rest, hcolon, hrest⟩
  refine ⟨before, gap, rest, hrest, ?_⟩
  rintro beforeValue more rfl
  simp [hcs, hcolon, Label.written, Token.written, Quoted.token, Quoted.written]

mutual

/-- A text that writes the tokens of a tree first is, up to the gaps, the text of that tree. -/
theorem Tree.respaced : (tree : Tree) → ∀ (others : List Token) (cs : List Char),
    Spaced (tree.tokens ++ others) cs → ∃ (gap : Gap) (tree' : Tree) (rest : List Char),
      cs = gap.chars ++ (tree'.written ++ rest) ∧ tree'.bare = tree.bare ∧ Spaced others rest
  | .scalar token => by
      intro others cs h
      rcases h.exists_first with ⟨gap, rest, hcs, hrest⟩
      exact ⟨gap, .scalar token, rest, hcs, rfl, hrest⟩
  | .string token => by
      intro others cs h
      rcases h.exists_first with ⟨gap, rest, hcs, hrest⟩
      exact ⟨gap, .string token, rest, hcs, rfl, hrest⟩
  | .emptyArray _ => by
      intro others cs h
      -- the bracket that closes is the second token, behind a gap of any kind
      rcases h.exists_first with ⟨gap, middle, hcs, hmiddle⟩
      rcases hmiddle.exists_first with ⟨inner, rest, hclose, hrest⟩
      exact ⟨gap, .emptyArray inner, rest, by simp [hcs, hclose, Tree.written, Token.written], rfl,
        hrest⟩
  | .array items => by
      intro others cs h
      rcases h.exists_first with ⟨gap, middle, hcs, hmiddle⟩
      rcases items.respaced others middle hmiddle with ⟨items', rest, hitems, hbare, hrest⟩
      exact ⟨gap, .array items', rest, by simp [hcs, hitems, Tree.written, Token.written],
        by rw [Tree.bare, Tree.bare, hbare], hrest⟩
  | .emptyObject _ => by
      intro others cs h
      rcases h.exists_first with ⟨gap, middle, hcs, hmiddle⟩
      rcases hmiddle.exists_first with ⟨inner, rest, hclose, hrest⟩
      exact ⟨gap, .emptyObject inner, rest, by simp [hcs, hclose, Tree.written, Token.written], rfl,
        hrest⟩
  | .object members => by
      intro others cs h
      rcases h.exists_first with ⟨gap, middle, hcs, hmiddle⟩
      rcases members.respaced others middle hmiddle with ⟨members', rest, hmembers, hbare, hrest⟩
      exact ⟨gap, .object members', rest, by simp [hcs, hmembers, Tree.written, Token.written],
        by rw [Tree.bare, Tree.bare, hbare], hrest⟩

/-- A text that writes the tokens of some items first is, up to the gaps, the text of these items.
-/
theorem Items.respaced : (items : Items) → ∀ (others : List Token) (cs : List Char),
    Spaced (items.tokens ++ others) cs → ∃ (items' : Items) (rest : List Char),
      cs = items'.written ++ rest ∧ items'.bare = items.bare ∧ Spaced others rest
  | .last _ value _ => by
      intro others cs h
      rw [Items.tokens, List.append_assoc] at h
      rcases value.respaced _ cs h with ⟨before, value', middle, hcs, hbare, hmiddle⟩
      rcases hmiddle.exists_first with ⟨after, rest, hclose, hrest⟩
      exact ⟨.last before value' after, rest, by simp [hcs, hclose, Items.written, Token.written],
        by rw [Items.bare, Items.bare, hbare], hrest⟩
  | .more _ value _ items => by
      intro others cs h
      rw [Items.tokens, List.append_assoc] at h
      rcases value.respaced _ cs h with ⟨before, value', middle, hcs, hbare, hmiddle⟩
      rcases hmiddle.exists_first with ⟨after, behind, hcomma, hbehind⟩
      rcases items.respaced others behind hbehind with ⟨items', rest, hitems, hbare', hrest⟩
      exact ⟨.more before value' after items', rest,
        by simp [hcs, hcomma, hitems, Items.written, Token.written],
        by rw [Items.bare, Items.bare, hbare, hbare'], hrest⟩

/-- A text that writes the tokens of some members first is, up to the gaps, the text of these
members. -/
theorem Members.respaced : (members : Members) → ∀ (others : List Token) (cs : List Char),
    Spaced (members.tokens ++ others) cs → ∃ (members' : Members) (rest : List Char),
      cs = members'.written ++ rest ∧ members'.bare = members.bare ∧ Spaced others rest
  | .last label value _ => by
      intro others cs h
      rw [Members.tokens, List.append_assoc, List.append_assoc] at h
      rcases label.respaced h with ⟨before, gap, afterColon, hlabel, hcs⟩
      rcases value.respaced _ _ hlabel with ⟨beforeValue, value', middle, hvalue, hbare, hmiddle⟩
      rcases hmiddle.exists_first with ⟨after, rest, hclose, hrest⟩
      -- the gap behind the colon was found in front of the value
      refine ⟨.last ⟨before, label.key, gap, beforeValue⟩ value' after, rest, ?_, ?_, hrest⟩
      · simp [hcs beforeValue _ hvalue, hclose, Members.written, Token.written]
      · rw [Members.bare, Members.bare, hbare]
        rfl
  | .more label value _ members => by
      intro others cs h
      rw [Members.tokens, List.append_assoc, List.append_assoc] at h
      rcases label.respaced h with ⟨before, gap, afterColon, hlabel, hcs⟩
      rcases value.respaced _ _ hlabel with ⟨beforeValue, value', middle, hvalue, hbare, hmiddle⟩
      rcases hmiddle.exists_first with ⟨after, behind, hcomma, hbehind⟩
      rcases members.respaced others behind hbehind with
        ⟨members', rest, hmembers, hbare', hrest⟩
      refine ⟨.more ⟨before, label.key, gap, beforeValue⟩ value' after members', rest, ?_, ?_,
        hrest⟩
      · simp [hcs beforeValue _ hvalue, hcomma, hmembers, Members.written, Token.written]
      · rw [Members.bare, Members.bare, hbare, hbare']
        rfl

end

/-- A text that writes the same tokens as a document is, up to the gaps, that document. -/
theorem Document.respaced (document : Document) {tokens : List Token} {cs : List Char}
    (htokens : Spaced tokens document.written) (h : Spaced tokens cs) :
    ∃ document' : Document, cs = document'.written ∧ document'.tree.bare = document.tree.bare := by
  have htrail : Ends document.trail.chars := by
    simpa using document.trail.ends_append ends_nil
  have hyields := (document.tree.yields document.trail.chars htrail).gap document.lead
  rw [Document.written, List.append_assoc] at htokens
  rcases hyields htokens with ⟨others, rfl, hothers⟩
  -- behind the tree there is only a gap
  have hempty : Spaced others [] := by
    rw [← List.append_nil document.trail.chars] at hothers
    exact hothers.of_gap
  rw [hempty.eq_nil] at h
  rcases document.tree.respaced [] cs h with ⟨lead, tree, rest, hcs, hbare, hrest⟩
  rcases hrest.exists_gap with ⟨trail, rfl⟩
  have hdepth : tree.depth ≤ maxDepth := by
    rw [← tree.depth_bare, hbare, document.tree.depth_bare]
    exact document.shallow
  exact ⟨⟨lead, tree, trail, hdepth⟩, by rw [hcs, Document.written, List.append_assoc], hbare⟩

end TemplateAudit.Json
