import Mathlib.Data.List.Forall2
import TemplateAudit.Proofs.PathGrammar

namespace TemplateAudit.RulePath

/-! # Rule paths segment by segment

A path that is not empty is a list of segments with points between them. A segment is a name with
any number of selectors in brackets behind it; the first segment may also be brackets alone. Taking
a path apart at its points gives this form (`continues_iff`), and printing a list of selectors puts
it together again: the lists that can be read back from their printed form are those whose names
and indexes a path can write (`parse_segments`).
-/

/-! ## Segments -/

/-- Selectors in brackets, one directly after the other. -/
inductive Brackets : List Char → List Selector → Prop where
  | nil : Brackets [] []
  | cons {inner rest : List Char} {selector : Selector} {selectors : List Selector}
      (first : Bracket inner selector) (others : Brackets rest selectors) :
      Brackets ('[' :: (inner ++ ']' :: rest)) (selector :: selectors)

/-- A name with any number of brackets behind it. -/
inductive Segment : List Char → List Selector → Prop where
  | named {name brackets : List Char} {selectors : List Selector} (isName : IsName name)
      (behind : Brackets brackets selectors) :
      Segment (name ++ brackets) (nameSelector name :: selectors)

/-- A segment that may start a path: any segment, or one or more brackets without a name. -/
inductive FirstSegment : List Char → List Selector → Prop where
  | segment {text : List Char} {selectors : List Selector} (segment : Segment text selectors) :
      FirstSegment text selectors
  | brackets {text : List Char} {selector : Selector} {selectors : List Selector}
      (brackets : Brackets text (selector :: selectors)) :
      FirstSegment text (selector :: selectors)

/-- The segments of a path and the selectors that they write, in order. -/
inductive Segments : List (List Char) → List Selector → Prop where
  | cons {text : List Char} {texts : List (List Char)} {selectors : List Selector}
      {others : List (List Selector)} (first : FirstSegment text selectors)
      (rest : List.Forall₂ Segment texts others) :
      Segments (text :: texts) (selectors ++ others.flatten)

/-! ## Taking a path apart at its points -/

/-- Texts with a point before each of them. -/
def pointed (texts : List (List Char)) : List Char :=
  texts.flatMap ('.' :: ·)

@[simp] theorem pointed_nil : pointed [] = [] := rfl

@[simp] theorem pointed_cons (text : List Char) (texts : List (List Char)) :
    pointed (text :: texts) = '.' :: (text ++ pointed texts) := rfl

/-- Points between texts stand before all of them but the first. -/
theorem intercalate_cons (text : List Char) (texts : List (List Char)) :
    ['.'].intercalate (text :: texts) = text ++ pointed texts := by
  induction texts generalizing text with
  | nil => simp [List.intercalate]
  | cons next rest ih =>
      rw [List.intercalate_cons_cons, ih, pointed_cons, List.append_assoc]
      rfl

/-- After brackets a path goes on as it may go on after the last of them. -/
theorem Brackets.continues {text rest : List Char} {selectors others : List Selector}
    (h : Brackets text selectors) (hrest : Continues rest others) :
    Continues (text ++ rest) (selectors ++ others) := by
  induction h with
  | nil => exact hrest
  | cons first _ ih => simpa using Continues.bracket first ih

/-- Segments with points before them may follow. -/
theorem continues_pointed {texts : List (List Char)} {lists : List (List Selector)}
    (h : List.Forall₂ Segment texts lists) : Continues (pointed texts) lists.flatten := by
  induction h with
  | nil => exact .done
  | cons first _ ih =>
      cases first with
      | named isName behind => simpa using Continues.name isName (behind.continues ih)

/-- What follows a name is brackets and then segments, each with a point before it. -/
theorem continues_iff {cs : List Char} {selectors : List Selector} :
    Continues cs selectors ↔ ∃ brackets own texts lists, Brackets brackets own ∧
      List.Forall₂ Segment texts lists ∧ cs = brackets ++ pointed texts ∧
        selectors = own ++ lists.flatten := by
  constructor
  · intro h
    -- along the text; a bracket joins the brackets in front, and a name begins a segment
    induction h with
    | done => exact ⟨[], [], [], [], .nil, .nil, rfl, rfl⟩
    | bracket first _ ih =>
        obtain ⟨brackets, own, texts, lists, hbrackets, hsegments, rfl, rfl⟩ := ih
        exact ⟨_, _, texts, lists, .cons first hbrackets, hsegments, by simp, rfl⟩
    | name first _ ih =>
        -- the brackets behind the name belong to its segment
        obtain ⟨brackets, own, texts, lists, hbrackets, hsegments, rfl, rfl⟩ := ih
        exact ⟨[], [], _, _, .nil, .cons (.named first hbrackets) hsegments, by simp, rfl⟩
  · rintro ⟨brackets, own, texts, lists, hbrackets, hsegments, rfl, rfl⟩
    exact hbrackets.continues (continues_pointed hsegments)

/-- A path is empty or a list of segments with points between them. -/
theorem written_iff_segments {cs : List Char} {selectors : List Selector} :
    Written cs selectors ↔ cs = [] ∧ selectors = [] ∨
      ∃ texts, Segments texts selectors ∧ cs = ['.'].intercalate texts := by
  constructor
  · intro h
    cases h with
    | empty => exact .inl ⟨rfl, rfl⟩
    | bracket first others =>
        obtain ⟨brackets, own, texts, lists, hbrackets, hsegments, rfl, rfl⟩ :=
          continues_iff.mp others
        refine .inr ⟨_, .cons (.brackets (.cons first hbrackets)) hsegments, ?_⟩
        simp [intercalate_cons]
    | name first others =>
        obtain ⟨brackets, own, texts, lists, hbrackets, hsegments, rfl, rfl⟩ :=
          continues_iff.mp others
        refine .inr ⟨_, .cons (.segment (.named first hbrackets)) hsegments, ?_⟩
        simp [intercalate_cons]
  · -- what follows the first segment is the same in both forms, so only its kinds are told apart
    rintro (⟨rfl, rfl⟩ | ⟨texts, hsegments, rfl⟩)
    · exact .empty
    · cases hsegments with
      | cons first rest =>
          rw [intercalate_cons]
          have hrest := continues_pointed rest
          cases first with
          | segment segment =>
              cases segment with
              | named isName behind =>
                  simpa using Written.name isName (behind.continues hrest)
          | brackets brackets =>
              cases brackets with
              | cons first others => simpa using Written.bracket first (others.continues hrest)

/-! ## Printing selectors -/

/-- The text of a selector by itself. -/
def selectorText : Selector → List Char
  | .property name => name.toList
  | .anyChild => ['*']
  | .allElements => ['[', '*', ']']
  | .index position => '[' :: (Nat.toDigits 10 position ++ [']'])

/-- Whether a selector is written as a name. -/
def isNamed : Selector → Bool
  | .property _ => true
  | .anyChild => true
  | .allElements => false
  | .index _ => false

/-- The text of selectors behind other ones: there is a point before each name. -/
def printBehind : List Selector → List Char
  | [] => []
  | selector :: rest =>
    if isNamed selector then '.' :: (selectorText selector ++ printBehind rest)
    else selectorText selector ++ printBehind rest

/-- The text of a list of selectors. -/
def print : List Selector → String
  | [] => ""
  | selector :: rest => String.ofList (selectorText selector ++ printBehind rest)

/-- A selector that a path can write: a property has a name that is not the star, and an index fits
64 bits. -/
def Writable : Selector → Prop
  | .property name => IsName name.toList ∧ name ≠ "*"
  | .index position => position < UInt64.size
  | _ => True

/-- An index that was read fits 64 bits. -/
theorem Bracket.writable {inner : List Char} {selector : Selector} (h : Bracket inner selector) :
    Writable selector := by
  cases h with
  | star => trivial
  | index signed nonempty decimal fits => exact fits

/-- A name that was read is a star, or the name of a property that is not the star. -/
theorem IsName.writable {name : List Char} (h : IsName name) : Writable (nameSelector name) := by
  unfold nameSelector
  split
  · trivial
  · next hstar =>
    refine ⟨by simpa using h, ?_⟩
    intro heq
    exact hstar (by simpa using congrArg String.toList heq)

/-- What was read behind a first segment can be written. -/
theorem Continues.writable {cs : List Char} {selectors : List Selector}
    (h : Continues cs selectors) : ∀ selector ∈ selectors, Writable selector := by
  induction h with
  | done => nofun
  | bracket first _ ih => exact List.forall_mem_cons.mpr ⟨first.writable, ih⟩
  | name first _ ih => exact List.forall_mem_cons.mpr ⟨first.writable, ih⟩

/-- What was read from a path can be written in one. -/
theorem Written.writable {cs : List Char} {selectors : List Selector}
    (h : Written cs selectors) : ∀ selector ∈ selectors, Writable selector := by
  cases h with
  | empty => nofun
  | bracket first others => exact List.forall_mem_cons.mpr ⟨first.writable, others.writable⟩
  | name first others => exact List.forall_mem_cons.mpr ⟨first.writable, others.writable⟩

/-- A selector in brackets is what is printed between them. -/
theorem bracket_of_writable {selector : Selector} (h : Writable selector)
    (hnamed : isNamed selector = false) :
    ∃ inner, selectorText selector = '[' :: (inner ++ [']']) ∧ Bracket inner selector := by
  cases selector with
  | allElements => exact ⟨['*'], rfl, .star⟩
  | index position =>
      refine ⟨Nat.toDigits 10 position, rfl, ?_⟩
      have hdecimal : ∀ c ∈ Nat.toDigits 10 position, c.isDigit = true := fun c hc =>
        Nat.isDigit_of_mem_toDigits (by decide) (by decide) hc
      have hvalue : Nat.ofDigitChars 10 (Nat.toDigits 10 position) 0 = position :=
        Nat.ofDigitChars_ten_toDigits
      have hindex := Bracket.index (.inl rfl) Nat.toDigits_ne_nil hdecimal (hvalue.symm ▸ h)
      rwa [hvalue, List.nil_append] at hindex
  | _ => cases hnamed

/-- A selector that is written as a name is the one that its text names. -/
theorem name_of_writable {selector : Selector} (h : Writable selector)
    (hnamed : isNamed selector = true) :
    IsName (selectorText selector) ∧ nameSelector (selectorText selector) = selector := by
  cases selector with
  | property name =>
      refine ⟨h.1, ?_⟩
      have hstar : name.toList ≠ ['*'] := by
        intro heq
        exact h.2 (String.toList_inj.mp heq)
      simp [nameSelector, selectorText, hstar]
  | anyChild =>
      refine ⟨⟨List.cons_ne_nil _ _, ?_⟩, rfl⟩
      intro c hc
      obtain rfl := List.mem_singleton.mp hc
      rfl
  | _ => cases hnamed

/-- What is printed behind other selectors may follow them. -/
theorem continues_printBehind {selectors : List Selector}
    (h : ∀ selector ∈ selectors, Writable selector) :
    Continues (printBehind selectors) selectors := by
  -- over the selectors; each of them is a name behind a point or stands in brackets
  induction selectors with
  | nil => exact .done
  | cons selector rest ih =>
      obtain ⟨hfirst, hrest⟩ := List.forall_mem_cons.mp h
      rw [printBehind]
      split
      · next hnamed =>
        obtain ⟨hname, hselector⟩ := name_of_writable hfirst hnamed
        have hwritten := Continues.name hname (ih hrest)
        rwa [hselector] at hwritten
      · next hnamed =>
        rw [Bool.not_eq_true] at hnamed
        obtain ⟨inner, htext, hinner⟩ := bracket_of_writable hfirst hnamed
        rw [htext]
        simpa using Continues.bracket hinner (ih hrest)

/-- What is printed is a path with the selectors that were printed. -/
theorem written_print {selectors : List Selector}
    (h : ∀ selector ∈ selectors, Writable selector) :
    Written (print selectors).toList selectors := by
  cases selectors with
  | nil => exact .empty
  | cons selector rest =>
      obtain ⟨hfirst, hrest⟩ := List.forall_mem_cons.mp h
      have hbehind := continues_printBehind hrest
      rw [print, String.toList_ofList]
      cases hnamed : isNamed selector with
      | true =>
          obtain ⟨hname, hselector⟩ := name_of_writable hfirst hnamed
          have hwritten := Written.name hname hbehind
          rwa [hselector] at hwritten
      | false =>
          obtain ⟨inner, htext, hinner⟩ := bracket_of_writable hfirst hnamed
          rw [htext]
          simpa using Written.bracket hinner hbehind

/-- A text is read as a path exactly if it is empty or a list of segments with points between them,
and it gives the selectors of its segments, in order. A list of selectors is read back from its
printed form exactly if a path can write each of them. -/
theorem parse_segments :
    (∀ text path, parse text = .ok path ↔ path.text = text ∧
      (text = "" ∧ path.selectors = [] ∨
        ∃ segments, Segments segments path.selectors ∧
          text.toList = ['.'].intercalate segments)) ∧
    ∀ selectors, parse (print selectors) = .ok ⟨print selectors, selectors⟩ ↔
      ∀ selector ∈ selectors, Writable selector := by
  constructor
  · intro text path
    rw [parse_iff, written_iff_segments, String.toList_eq_nil_iff]
  · intro selectors
    rw [parse_iff]
    constructor
    · rintro ⟨-, hwritten⟩
      exact hwritten.writable
    · intro h
      exact ⟨rfl, written_print h⟩

example :
    print [.property "resources", .allElements, .property "name"] = "resources[*].name" := by
  decide

end TemplateAudit.RulePath
