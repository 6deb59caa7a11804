import TemplateAudit.Path.Location

namespace TemplateAudit.Location

/-! # Canonical texts tell locations apart

Behind other text a step is always written in the same way (`joinText`), and the text of a whole
location can be taken apart again (`joined_injective`). The one danger are quoted keys: a quote
inside a key gets a backslash, but a backslash gets none, so the end of a quoted key does not show
at once. What saves it is that no text of a location continues with the end of a quoted key
(`joined_ne_quoted`).

At the front of a text a plain key has no point before it, so only an empty key can be lost there
(`render_injective`), and nothing else is ever lost (`render_eq_iff`).
-/

/-! ## Steps behind other text -/

/-- The text of a step behind other text. -/
def joinText : Step → List Char
  | .key name =>
    if name.toList.any isSpecial then quoteKey name.toList else '.' :: name.toList
  | .index position => '[' :: Nat.toDigits 10 position ++ [']']

/-- The text of a location behind other text. -/
def joined (location : Location) : List Char :=
  location.flatMap joinText

@[simp] theorem joined_nil : joined [] = [] := rfl

@[simp] theorem joined_cons (step : Step) (rest : Location) :
    joined (step :: rest) = joinText step ++ joined rest := rfl

/-- Once something is written, how a step is written no longer depends on what it is. -/
theorem stepText_of_written {written : List Char} (h : written ≠ []) (step : Step) :
    stepText written step = joinText step := by
  cases step with
  | key name => simp [stepText, joinText, h]
  | index position => rfl

/-- Behind other text a location adds the texts of its steps, one after the other. -/
theorem extend_of_written {written : List Char} (h : written ≠ []) (location : Location) :
    extend written location = written ++ joined location := by
  induction location generalizing written with
  | nil => simp
  | cons step rest ih =>
      rw [extend_cons, stepText_of_written h, ih (by simp [h]), joined_cons, List.append_assoc]

/-- The characters of a key between its quotes. -/
def escaped (key : List Char) : List Char :=
  key.flatMap fun c => if c = '\'' then ['\\', '\''] else [c]

@[simp] theorem escaped_nil : escaped [] = [] := rfl

/-- A quote gets a backslash. -/
theorem escaped_cons_quote (key : List Char) :
    escaped ('\'' :: key) = '\\' :: '\'' :: escaped key := rfl

theorem escaped_cons {c : Char} (hc : c ≠ '\'') (key : List Char) :
    escaped (c :: key) = c :: escaped key := by
  simp [escaped, hc]

/-- Where the quotes and brackets of a quoted key stand in a longer text. -/
theorem quoteKey_eq (key rest : List Char) :
    quoteKey key ++ rest = '[' :: '\'' :: (escaped key ++ '\'' :: ']' :: rest) := by
  simp [quoteKey, escaped]

/-- The three ways to write a step. -/
theorem joinText_cases (step : Step) :
    (∃ name, step = .key name ∧ (∀ c ∈ name.toList, isSpecial c = false) ∧
      joinText step = '.' :: name.toList) ∨
    (∃ name, step = .key name ∧ joinText step = quoteKey name.toList) ∨
    ∃ position, step = .index position ∧
      joinText step = '[' :: Nat.toDigits 10 position ++ [']'] := by
  cases step with
  | key name =>
      by_cases hspecial : name.toList.any isSpecial = true
      · exact .inr (.inl ⟨name, rfl, by simp [joinText, hspecial]⟩)
      · refine .inl ⟨name, rfl, ?_, by simp [joinText, hspecial]⟩
        simpa using hspecial
  | index position => exact .inr (.inr ⟨position, rfl, rfl⟩)

/-- What a location adds begins with a point or a bracket. -/
theorem joined_front (location : Location) :
    joined location = [] ∨ ∃ c rest, joined location = c :: rest ∧ (c = '.' ∨ c = '[') := by
  cases location with
  | nil => exact .inl rfl
  | cons step rest =>
      refine .inr ?_
      rcases joinText_cases step with ⟨name, -, -, hstep⟩ | ⟨name, -, hstep⟩ | ⟨position, -, hstep⟩
      · exact ⟨'.', _, by rw [joined_cons, hstep, List.cons_append], .inl rfl⟩
      · exact ⟨'[', _, by rw [joined_cons, hstep, quoteKey_eq], .inr rfl⟩
      · exact ⟨'[', Nat.toDigits 10 position ++ ']' :: joined rest, by simp [hstep], .inr rfl⟩

/-- Every step leaves something in the text, an empty key its point. -/
theorem joined_cons_ne_nil (step : Step) (rest : Location) : joined (step :: rest) ≠ [] := by
  rw [joined_cons]
  rcases joinText_cases step with ⟨name, -, -, hstep⟩ | ⟨name, -, hstep⟩ | ⟨position, -, hstep⟩
  · simp [hstep]
  · simp [hstep, quoteKey]
  · simp [hstep]

/-- No location adds a text that begins with a quote. -/
theorem joined_head_ne_quote (location : Location) : (joined location).head? ≠ some '\'' := by
  rcases joined_front location with h | ⟨c, rest, h, hc⟩
  · simp [h]
  · rcases hc with rfl | rfl <;> simp [h]

/-- What a location adds begins with a character that no plain key has. -/
theorem joined_head_special (location : Location) :
    ∀ c ∈ (joined location).head?, isSpecial c = true := by
  intro c hc
  rcases joined_front location with h | ⟨d, rest, h, hd⟩
  · simp [h] at hc
  · obtain rfl : d = c := by simpa [h] using hc
    rcases hd with rfl | rfl <;> rfl

/-! ## Taking texts apart -/

/-- A text is cut in one way before its first character of a kind. -/
theorem append_cut {p : Char → Bool} {a b x y : List Char} (ha : ∀ c ∈ a, p c = false)
    (hb : ∀ c ∈ b, p c = false) (hx : ∀ c ∈ x.head?, p c = true) (hy : ∀ c ∈ y.head?, p c = true)
    (h : a ++ x = b ++ y) : a = b ∧ x = y := by
  induction a generalizing b with
  -- the first piece ends here, so the other one has to end here, too: the next character is of the
  -- kind both times or neither time
  | nil =>
      cases b with
      | nil => exact ⟨rfl, h⟩
      | cons d b =>
          obtain rfl : x = d :: (b ++ y) := h
          have hfalse := hb d (by simp)
          rw [hx d (by simp)] at hfalse
          cases hfalse
  | cons c a ih =>
      cases b with
      | nil =>
          obtain rfl : c :: (a ++ x) = y := h
          have hfalse := ha c (by simp)
          rw [hy c (by simp)] at hfalse
          cases hfalse
      | cons d b =>
          rcases List.cons_eq_cons.mp h with ⟨rfl, htails⟩
          have ha' : ∀ e ∈ a, p e = false := fun e he => ha e (by simp [he])
          have hb' : ∀ e ∈ b, p e = false := fun e he => hb e (by simp [he])
          rcases ih ha' hb' htails with ⟨rfl, hrest⟩
          exact ⟨rfl, hrest⟩

/-- The bracket that closes an index comes behind all of its digits. -/
theorem closing_not_mem_digits (position : Nat) :
    ∀ c ∈ Nat.toDigits 10 position, decide (c = ']') = false := by
  intro c hc
  have hdigit := Nat.isDigit_of_mem_toDigits (by decide) (by decide) hc
  simp only [decide_eq_false_iff_not]
  rintro rfl
  exact absurd hdigit (by decide)

/-- An index has no quotes. -/
theorem quote_not_mem_digits (position : Nat) : '\'' ∉ Nat.toDigits 10 position := by
  intro hc
  exact absurd (Nat.isDigit_of_mem_toDigits (by decide) (by decide) hc) (by decide)

/-- The first character of an escaped key comes from a quote or stands for itself. -/
theorem escaped_front {c : Char} {key x y : List Char} (hc : c ≠ '\'')
    (h : c :: x = escaped key ++ '\'' :: y) :
    (∃ more, key = '\'' :: more ∧ c = '\\' ∧ x = '\'' :: (escaped more ++ '\'' :: y)) ∨
      ∃ more, key = c :: more ∧ x = escaped more ++ '\'' :: y := by
  cases key with
  | nil => exact absurd (List.cons_eq_cons.mp h).1 hc
  | cons d key =>
      by_cases hd : d = '\''
      · subst hd
        rw [escaped_cons_quote] at h
        rcases List.cons_eq_cons.mp h with ⟨hslash, hrest⟩
        exact .inl ⟨key, rfl, hslash, hrest⟩
      · rw [escaped_cons hd] at h
        rcases List.cons_eq_cons.mp h with ⟨rfl, hrest⟩
        exact .inr ⟨key, rfl, hrest⟩

/-- An escaped key begins with no quote. -/
theorem escaped_quote {key x y : List Char} (h : '\'' :: x = escaped key ++ '\'' :: y) :
    key = [] ∧ x = y := by
  cases key with
  | nil => exact ⟨rfl, (List.cons_eq_cons.mp h).2⟩
  | cons c key =>
      by_cases hc : c = '\''
      · subst hc
        exact absurd (List.cons_eq_cons.mp h).1 (by decide)
      · rw [escaped_cons hc] at h
        exact absurd (List.cons_eq_cons.mp h).1.symm hc

/-- A key in quotes begins with all text in which no quote occurs. -/
theorem escaped_cut {plain key x y : List Char} (hplain : '\'' ∉ plain)
    (hx : x.head? ≠ some '\'') (h : plain ++ x = escaped key ++ '\'' :: y) :
    ∃ more, key = plain ++ more ∧ x = escaped more ++ '\'' :: y := by
  -- on the text without quotes; each of its characters is taken from the key
  induction plain generalizing key with
  | nil => exact ⟨key, rfl, h⟩
  | cons c plain ih =>
      have hc : c ≠ '\'' := fun hc => hplain (by simp [hc])
      have hrest : '\'' ∉ plain := fun hmem => hplain (by simp [hmem])
      rw [List.cons_append] at h
      rcases escaped_front hc h with ⟨more, -, -, hquote⟩ | ⟨more, rfl, hmore⟩
      · -- The quote of the key would be the next character of the text.
        cases plain with
        | nil => exact absurd (by simp [show x = _ from hquote]) hx
        | cons e plain => exact absurd (by simp [(List.cons_eq_cons.mp hquote).1]) hrest
      · rcases ih hrest hmore with ⟨tail, rfl, htail⟩
        exact ⟨tail, rfl, htail⟩

/-- A bracket behind an opening quote belongs to the key. -/
theorem escaped_bracket {key x y : List Char} (h : ']' :: x = escaped key ++ '\'' :: y) :
    ∃ more, key = ']' :: more ∧ x = escaped more ++ '\'' :: y := by
  rcases escaped_front (by decide) h with ⟨more, -, hslash, -⟩ | hmore
  · exact absurd hslash (by decide)
  · exact hmore

/-! ## The end of a quoted key -/

/-- The text of a location does not go on like the rest of a quoted key. Outside of quotes it has
no quote, so the key would have to reach up to a quote that opens another key; the bracket that
closes the first key would then be inside the second one, and the same question comes up with the
two locations exchanged. -/
theorem joined_ne_quoted (a b : Location) (key : List Char) :
    joined a ≠ escaped key ++ '\'' :: ']' :: joined b := by
  intro h
  cases a with
  | nil =>
      rw [joined_nil] at h
      exact absurd (congrArg List.length h) (by simp)
  | cons step rest =>
      have hrest := joined_head_ne_quote rest
      -- plain keys and indexes have no quote, so the key reaches beyond them and the rest of the
      -- location is asked the same question
      rcases joinText_cases step with ⟨name, -, hname, hstep⟩ | ⟨name, -, hstep⟩ |
        ⟨position, -, hstep⟩
      · have hplain : '\'' ∉ '.' :: name.toList := by
          intro hmem
          rcases List.mem_cons.mp hmem with hdot | hmem
          · exact absurd hdot (by decide)
          · exact absurd (hname _ hmem) (by decide)
        rw [joined_cons, hstep] at h
        rcases escaped_cut hplain hrest h with ⟨more, -, hmore⟩
        exact joined_ne_quoted rest b more hmore
      · -- the opening bracket and the quote: here the key ends, and its closing bracket is inside
        -- the key of the first step
        rw [joined_cons, hstep, quoteKey_eq] at h
        rcases escaped_front (by decide) h with ⟨more, -, hslash, -⟩ | ⟨more, -, hmore⟩
        · exact absurd hslash (by decide)
        · rcases escaped_quote hmore with ⟨-, hclose⟩
          rcases escaped_bracket hclose.symm with ⟨inner, -, hinner⟩
          exact joined_ne_quoted b rest inner hinner
      · have hplain : '\'' ∉ '[' :: Nat.toDigits 10 position ++ [']'] := by
          have hdigits := quote_not_mem_digits position
          simp [hdigits]
        rw [joined_cons, hstep] at h
        rcases escaped_cut hplain hrest h with ⟨more, -, hmore⟩
        exact joined_ne_quoted rest b more hmore
termination_by a.length + b.length

/-- A quoted key ends where its closing quote and bracket are. -/
theorem quoted_cut {k l : List Char} {a b : Location}
    (h : escaped k ++ '\'' :: ']' :: joined a = escaped l ++ '\'' :: ']' :: joined b) :
    k = l ∧ joined a = joined b := by
  -- on the first key; a backslash is the only character that does not say by itself how to go on
  induction k generalizing l with
  | nil =>
      rcases escaped_quote h with ⟨rfl, hrest⟩
      exact ⟨rfl, (List.cons_eq_cons.mp hrest).2⟩
  | cons c k ih =>
      by_cases hc : c = '\''
      · subst hc
        rw [escaped_cons_quote] at h
        -- the backslash comes from a quote of the other key, too, or stands for itself in it
        rcases escaped_front (by decide) h with ⟨more, rfl, -, hmore⟩ | ⟨more, rfl, hmore⟩
        · rcases ih (List.cons_eq_cons.mp hmore).2 with ⟨rfl, hrest⟩
          exact ⟨rfl, hrest⟩
        · rcases escaped_quote hmore with ⟨-, hclose⟩
          rcases escaped_bracket hclose.symm with ⟨inner, -, hinner⟩
          exact absurd hinner (joined_ne_quoted b a inner)
      · rw [escaped_cons hc] at h
        rcases escaped_front hc h with ⟨more, rfl, rfl, hmore⟩ | ⟨more, rfl, hmore⟩
        · -- a backslash of the first key would be the escape of the second one, whose end is then
          -- in doubt
          rcases escaped_quote hmore.symm with ⟨-, hclose⟩
          rcases escaped_bracket hclose.symm with ⟨inner, -, hinner⟩
          exact absurd hinner (joined_ne_quoted a b inner)
        · rcases ih hmore with ⟨rfl, hrest⟩
          exact ⟨rfl, hrest⟩

/-! ## Locations from their texts -/

/-- An index is not taken for a quoted key. -/
theorem index_ne_quoted (position : Nat) (key x y : List Char) :
    '[' :: Nat.toDigits 10 position ++ [']'] ++ x ≠ quoteKey key ++ y := by
  intro h
  rw [quoteKey_eq, List.append_assoc, List.cons_append] at h
  have hrest := (List.cons_eq_cons.mp h).2
  rcases hdigits : Nat.toDigits 10 position with _ | ⟨d, ds⟩
  · exact Nat.toDigits_ne_nil hdigits
  · rw [hdigits] at hrest
    obtain rfl : d = '\'' := (List.cons_eq_cons.mp hrest).1
    exact quote_not_mem_digits position (by simp [hdigits])

/-- An index is told by its digits. -/
theorem digits_injective {i j : Nat} (h : Nat.toDigits 10 i = Nat.toDigits 10 j) : i = j := by
  have hi := Nat.ofDigitChars_ten_toDigits (n := i)
  rwa [h, Nat.ofDigitChars_ten_toDigits, eq_comm] at hi

/-- The first step can be taken off the text of a location. -/
theorem joinText_cut {s t : Step} {a b : Location}
    (h : joinText s ++ joined a = joinText t ++ joined b) : s = t ∧ joined a = joined b := by
  rcases joinText_cases s with ⟨k, rfl, hk, hs⟩ | ⟨k, rfl, hs⟩ | ⟨i, rfl, hs⟩ <;>
    rcases joinText_cases t with ⟨l, rfl, hl, ht⟩ | ⟨l, rfl, ht⟩ | ⟨j, rfl, ht⟩ <;>
    rw [hs, ht] at h
  · -- a plain key ends at the first character that no plain key has
    obtain ⟨hnames, hrest⟩ := append_cut hk hl (joined_head_special a) (joined_head_special b)
      (List.cons_eq_cons.mp h).2
    exact ⟨by rw [String.toList_inj.mp hnames], hrest⟩
  · exact absurd (List.cons_eq_cons.mp h).1 (by decide)
  · exact absurd (List.cons_eq_cons.mp h).1 (by decide)
  · exact absurd (List.cons_eq_cons.mp h).1 (by decide)
  · rw [quoteKey_eq, quoteKey_eq] at h
    rcases quoted_cut (List.cons_eq_cons.mp (List.cons_eq_cons.mp h).2).2 with ⟨hnames, hrest⟩
    exact ⟨by rw [String.toList_inj.mp hnames], hrest⟩
  · exact absurd h.symm (index_ne_quoted j k.toList _ _)
  · exact absurd (List.cons_eq_cons.mp h).1 (by decide)
  · exact absurd h (index_ne_quoted i l.toList _ _)
  · -- an index ends at its closing bracket
    rw [List.append_assoc, List.append_assoc] at h
    obtain ⟨hdigits, hrest⟩ := append_cut (p := fun c => decide (c = ']'))
      (closing_not_mem_digits i) (closing_not_mem_digits j) (by simp) (by simp)
      (List.cons_eq_cons.mp h).2
    exact ⟨by rw [digits_injective hdigits], (List.cons_eq_cons.mp hrest).2⟩

/-- Behind other text every location has a text of its own. -/
theorem joined_injective {a b : Location} (h : joined a = joined b) : a = b := by
  -- on the first location; the first steps are taken off both
  induction a generalizing b with
  | nil =>
      rcases b with _ | ⟨step, rest⟩
      · rfl
      · exact absurd h.symm (joined_cons_ne_nil step rest)
  | cons s a ih =>
      rcases b with _ | ⟨t, b⟩
      · exact absurd h (joined_cons_ne_nil s a)
      · rcases joinText_cut h with ⟨rfl, hrest⟩
        rw [ih hrest]

/-- Whether the text of a location begins with a key that is written without point and quotes. -/
def startsPlain : Location → Bool
  | .key name :: _ => !name.toList.any isSpecial
  | _ => false

/-- A location whose first key is not empty. -/
def Fronted (location : Location) : Prop :=
  ∀ rest, location ≠ .key "" :: rest

/-- The text of a first step lacks only the point before a plain key. -/
theorem joinText_front {step : Step} (h : step ≠ .key "") (rest : Location) :
    stepText [] step ≠ [] ∧
      joinText step = if startsPlain (step :: rest) then '.' :: stepText [] step
        else stepText [] step := by
  cases step with
  | key name =>
      have hname : name.toList ≠ [] := fun hnil => h (by rw [String.toList_eq_nil_iff.mp hnil])
      by_cases hspecial : name.toList.any isSpecial = true
      · simp [stepText, joinText, startsPlain, hspecial, quoteKey]
      · simp [stepText, joinText, startsPlain, hspecial, hname]
  | index position => simp [stepText, joinText, startsPlain]

/-- Only the first step is written differently at the front of a text. -/
theorem render_cons {step : Step} (h : step ≠ .key "") (rest : Location) :
    (render (step :: rest)).toList = stepText [] step ++ joined rest := by
  rcases joinText_front h rest with ⟨hwritten, -⟩
  simp [render, append, extend_of_written hwritten]

/-- The text of a location, up to the point before a plain first key. -/
theorem joined_eq_render {location : Location} (h : Fronted location) :
    joined location =
      if startsPlain location then '.' :: location.render.toList else location.render.toList := by
  rcases location with _ | ⟨step, rest⟩
  · rfl
  · have hstep : step ≠ .key "" := fun hstep => h rest (by rw [hstep])
    rw [joined_cons, (joinText_front hstep rest).2, render_cons hstep]
    split <;> rfl

/-- A plain first key shows in the first character. -/
theorem render_head_plain {location : Location} (h : Fronted location)
    (hplain : startsPlain location = true) :
    ∃ c ∈ location.render.toList.head?, isSpecial c = false := by
  rcases location with _ | ⟨name | position, rest⟩
  · cases hplain
  · have hname : name ≠ "" := fun hname => h rest (by rw [hname])
    have hspecial : name.toList.any isSpecial = false := by simpa [startsPlain] using hplain
    rw [render_cons (by simpa using hname)]
    rcases hchars : name.toList with _ | ⟨c, cs⟩
    · exact absurd (String.toList_eq_nil_iff.mp hchars) hname
    · rw [hchars, List.any_cons, Bool.or_eq_false_iff] at hspecial
      exact ⟨c, by simp [stepText, hchars, hspecial], hspecial.1⟩
  · cases hplain

/-- Of two locations with one text, a plain first key in one is a plain first key in the other. -/
theorem startsPlain_of_render_eq {a b : Location} (ha : Fronted a) (hb : Fronted b)
    (h : a.render = b.render) (hplain : startsPlain a = true) : startsPlain b = true := by
  cases hb' : startsPlain b with
  | true => rfl
  | false =>
      -- if the other one began with a point or bracket, so would the common text
      rcases render_head_plain ha hplain with ⟨c, hc, hfalse⟩
      have hjoined := joined_eq_render hb
      rw [hb', if_neg (by decide), ← h] at hjoined
      have htrue := joined_head_special b c (by rwa [hjoined])
      rw [hfalse] at htrue
      cases htrue

/-- Locations whose first keys are not empty are told apart by their texts. -/
theorem render_injective {a b : Location} (ha : Fronted a) (hb : Fronted b)
    (h : a.render = b.render) : a = b := by
  have hplain : startsPlain a = startsPlain b := by
    rw [Bool.eq_iff_iff]
    exact ⟨startsPlain_of_render_eq ha hb h, startsPlain_of_render_eq hb ha h.symm⟩
  apply joined_injective
  rw [joined_eq_render ha, joined_eq_render hb, hplain, h]

/-! ## Empty keys at the front -/

/-- The location without the empty keys at its front. -/
def trimmed (location : Location) : Location :=
  location.dropWhile fun step => step = .key ""

/-- An empty key at the front is taken away. -/
theorem trimmed_empty_key (rest : Location) : trimmed (.key "" :: rest) = trimmed rest := by
  simp [trimmed]

theorem trimmed_cons {step : Step} (h : step ≠ .key "") (rest : Location) :
    trimmed (step :: rest) = step :: rest := by
  simp [trimmed, h]

/-- What is left has no empty key at its front. -/
theorem fronted_trimmed (location : Location) : Fronted (trimmed location) := by
  induction location with
  | nil => simp [trimmed, Fronted]
  | cons step rest ih =>
      by_cases hstep : step = .key ""
      · rwa [hstep, trimmed_empty_key]
      · rw [trimmed_cons hstep]
        intro more heq
        exact hstep (List.cons_eq_cons.mp heq).1

/-- An empty key at the front leaves no trace: there is no text yet that a point would follow. -/
theorem render_trimmed (location : Location) : (trimmed location).render = location.render := by
  induction location with
  | nil => rfl
  | cons step rest ih =>
      by_cases hstep : step = .key ""
      · have hnothing : render (.key "" :: rest) = render rest := rfl
        rw [hstep, trimmed_empty_key, ih, hnothing]
      · rw [trimmed_cons hstep]

/-- Two locations have one text exactly if they differ in nothing but empty keys at the front. So
among those that do not begin with an empty key the text tells which location is meant. -/
theorem render_eq_iff :
    (∀ a b : Location, a.render = b.render ↔ a.trimmed = b.trimmed) ∧
      ∀ a b : Location, a.Fronted → b.Fronted → a.render = b.render → a = b := by
  constructor
  · intro a b
    constructor
    · intro h
      apply render_injective (fronted_trimmed a) (fronted_trimmed b)
      rw [render_trimmed, render_trimmed, h]
    · intro h
      rw [← render_trimmed a, h, render_trimmed]
  · intro a b ha hb h
    exact render_injective ha hb h

end TemplateAudit.Location
