import Mathlib.Data.List.Nodup
import TemplateAudit.Proofs.DeepEquality
import TemplateAudit.Proofs.DocumentLocation
import TemplateAudit.Proofs.EvaluationMeaning
import TemplateAudit.Proofs.ResourceSearch

namespace TemplateAudit

/-! # Cursors in document order

In document order a value comes before everything inside it, and of two members of an object or two
items of an array the first comes, with everything inside it, before the second (`Json.Precedes`).
Every way of moving about leads from a value of the document to values of the document, each at its
own location (`Cursor.Placed`), and lists them in document order (`Cursor.InOrder`). A selector goes
down one step at a time, so a list of cursors of one depth is replaced by one of the next depth; the
search for resources lists each resource before those that it holds. By induction on the steps this
holds of every cursor that can be reached (`Cursor.reachable_listed`).
-/

namespace Json

/-! ## Values at locations -/

/-- A location is followed by following its first part and then the rest. -/
theorem at?_append (value : Json) (a b : Location) :
    value.at? (a ++ b) = (value.at? a).bind (·.at? b) := by
  induction a generalizing value with
  | nil => rfl
  | cons step rest ih =>
      rw [List.cons_append, at?_cons, at?_cons, Option.bind_assoc]
      exact congrArg _ (funext ih)

/-- A member whose key occurs once is found under its key. -/
theorem child?_of_mem {members : List (String × Json)} (distinct : (Table.keys members).Nodup)
    {key : String} {child : Json} (h : (key, child) ∈ members) :
    (object members).child? (.key key) = some child :=
  (Table.lookup_eq_some_iff_mem distinct).mpr h

/-- The items of an array without a key twice have no key twice. -/
theorem Distinct.item {items : List Json} (h : (Json.array items).Distinct) {item : Json}
    (hitem : item ∈ items) : item.Distinct :=
  distinctItems_iff.mp h item hitem

theorem Distinct.member {members : List (String × Json)} (h : (Json.object members).Distinct)
    {key : String} {value : Json} (hmember : (key, value) ∈ members) : value.Distinct :=
  distinctMembers_iff.mp h.2 (key, value) hmember

/-- One step down from a value without a key twice there is such a value. -/
theorem Distinct.child? {value child : Json} (h : value.Distinct) {step : Step}
    (hchild : value.child? step = some child) : child.Distinct := by
  cases step with
  | key name =>
      cases value with
      | object members => exact h.member (Table.mem_of_lookup hchild)
      | _ => cases hchild
  | index position =>
      cases value with
      | array items => exact h.item (List.mem_of_getElem? hchild)
      | _ => cases hchild

/-- What every value passes on to its children holds at every location. -/
theorem holds_at? {p : Json → Prop}
    (hchild : ∀ {value child step}, p value → value.child? step = some child → p child)
    {document value : Json} (h : p document) {location : Location}
    (hvalue : document.at? location = some value) : p value := by
  induction location generalizing document with
  | nil =>
      obtain rfl : document = value := Option.some.inj hvalue
      exact h
  | cons step rest ih =>
      obtain ⟨child, hstep, hrest⟩ := Option.bind_eq_some_iff.mp hvalue
      exact ih (hchild h hstep) hrest

/-- A document without a key twice has only values without a key twice. -/
theorem Distinct.at? {document value : Json} (h : document.Distinct) {location : Location}
    (hvalue : document.at? location = some value) : value.Distinct :=
  holds_at? (fun hparent hstep => Distinct.child? hparent hstep) h hvalue

/-! ## Document order -/

/-- The position of the member or item that a step leads to, counted from 0. -/
def ordinal? (value : Json) (step : Step) : Option Nat :=
  match value, step with
  | .object members, .key name => (Table.keys members).idxOf? name
  | .array items, .index position => if position < items.length then some position else none
  | _, _ => none

/-- A location comes before another one: before everything below it and, where the two part, by the
position of the member or item. -/
inductive Precedes : Json → Location → Location → Prop where
  | above {value : Json} {step : Step} {rest : Location} : Precedes value [] (step :: rest)
  | beside {value : Json} {a b : Step} {restA restB : Location} {first second : Nat}
      (hfirst : value.ordinal? a = some first) (hsecond : value.ordinal? b = some second)
      (lt : first < second) : Precedes value (a :: restA) (b :: restB)
  | inside {value child : Json} {step : Step} {a b : Location}
      (hchild : value.child? step = some child) (below : Precedes child a b) :
      Precedes value (step :: a) (step :: b)

/-- No location comes before itself. -/
theorem Precedes.ne {value : Json} {a b : Location} (h : Precedes value a b) : a ≠ b := by
  induction h with
  | above => exact (List.cons_ne_nil _ _).symm
  | beside hfirst hsecond lt =>
      intro heq
      obtain ⟨rfl, -⟩ := List.cons.inj heq
      obtain rfl := Option.some.inj (hfirst.symm.trans hsecond)
      exact Nat.lt_irrefl _ lt
  | inside hchild below ih => exact fun heq => ih (List.cons.inj heq).2

/-- What comes before inside a value comes before in the document around it. -/
theorem Precedes.within {document value : Json} {anchor a b : Location}
    (hvalue : document.at? anchor = some value) (h : Precedes value a b) :
    Precedes document (anchor ++ a) (anchor ++ b) := by
  -- on the location of the value, one step of which is put in front of both
  induction anchor generalizing document with
  | nil =>
      obtain rfl : document = value := Option.some.inj hvalue
      exact h
  | cons step rest ih =>
      obtain ⟨child, hchild, hrest⟩ := Option.bind_eq_some_iff.mp hvalue
      exact .inside hchild (ih hrest)

/-- Of two locations of one depth, the first comes before the second with everything below them. -/
theorem Precedes.extend {value : Json} {a b : Location} (h : Precedes value a b)
    (depth : a.length = b.length) (x y : Location) : Precedes value (a ++ x) (b ++ y) := by
  -- on the order; where the two locations part they have parted for good
  induction h with
  | above => cases depth
  | beside hfirst hsecond lt => exact .beside hfirst hsecond lt
  | inside hchild below ih => exact .inside hchild (ih (Nat.succ.inj depth))

/-- The members of an object stand in document order. -/
theorem members_precede {members : List (String × Json)}
    (distinct : (Table.keys members).Nodup) :
    members.Pairwise fun a b => Precedes (.object members) [.key a.1] [.key b.1] := by
  have hordinal : ∀ (position : Nat) (hinside : position < members.length),
      (object members).ordinal? (.key members[position].1) = some position := by
    intro position hinside
    refine List.idxOf?_eq_some_iff.mpr ⟨by simpa [Table.keys] using hinside, ?_, ?_⟩
    · simp [Table.keys]
    · intro earlier hearlier hsame
      -- an earlier member of the same key would be the same member
      have hlength : (Table.keys members).length = members.length := List.length_map Prod.fst
      have hbefore : earlier < (Table.keys members).length := by omega
      have hwithin : position < (Table.keys members).length := by omega
      have hother : (Table.keys members)[earlier] = (Table.keys members)[position] := by
        simpa [Table.keys] using hsame
      have heq := distinct.getElem_inj_iff.mp hother
      omega
  rw [List.pairwise_iff_getElem]
  intro first second hfirst hsecond lt
  exact .beside (hordinal first hfirst) (hordinal second hsecond) lt

/-- The items of an array stand in document order. -/
theorem items_precede (items : List Json) :
    items.zipIdx.Pairwise fun a b => Precedes (.array items) [.index a.2] [.index b.2] := by
  have hordinal : ∀ position < items.length,
      (array items).ordinal? (.index position) = some position := by
    intro position hinside
    exact if_pos hinside
  rw [List.pairwise_iff_getElem]
  intro first second hfirst hsecond lt
  rw [List.length_zipIdx] at hfirst hsecond
  rw [List.getElem_zipIdx, List.getElem_zipIdx, Nat.zero_add, Nat.zero_add]
  exact .beside (hordinal first hfirst) (hordinal second hsecond) lt

end Json

namespace Cursor

open Json (Precedes)

/-! ## Cursors of a document -/

/-- Following the location of a cursor with exact keys and indexes leads to its value. -/
def Placed (document : Json) (cursor : Cursor) : Prop :=
  document.at? cursor.location = some cursor.value

/-- Cursors at values of a document, strictly in document order. -/
structure InOrder (document : Json) (cursors : List Cursor) : Prop where
  placed : ∀ cursor ∈ cursors, Placed document cursor
  ordered : cursors.Pairwise fun a b => Precedes document a.location b.location

section

variable {document : Json}

/-- The root is placed. -/
theorem placed_root (document : Json) : Placed document (root document) := rfl

/-- The value of a placed cursor has no key twice if the document has none. -/
theorem Placed.distinct {cursor : Cursor} (h : Placed document cursor)
    (distinct : document.Distinct) : cursor.value.Distinct :=
  distinct.at? h

/-- One exact step further down a cursor is still placed. -/
theorem Placed.child {cursor : Cursor} (h : Placed document cursor) {step : Step} {value : Json}
    (hchild : cursor.value.child? step = some value) :
    Placed document (cursor.child step value) := by
  rw [Placed, Cursor.child, Json.at?_append, h, Option.bind_some, Json.at?_cons, hchild]
  rfl

/-- A member of an object of the document is a value of the document, too. -/
theorem Placed.member {cursor : Cursor} (h : Placed document cursor)
    (distinct : document.Distinct) {members : List (String × Json)}
    (hvalue : cursor.value = .object members) {key : String} {value : Json}
    (hmember : (key, value) ∈ members) : Placed document (cursor.child (.key key) value) := by
  have hkeys := h.distinct distinct
  rw [hvalue] at hkeys
  apply h.child
  rw [hvalue]
  exact Json.child?_of_mem hkeys.1 hmember

/-- An item of an array of the document is a value of the document, too. -/
theorem Placed.item {cursor : Cursor} (h : Placed document cursor) {items : List Json}
    (hvalue : cursor.value = .array items) {position : Nat} {value : Json}
    (hitem : items[position]? = some value) :
    Placed document (cursor.child (.index position) value) := by
  apply h.child
  rw [hvalue]
  exact hitem

/-- The member that a name stands for is a value of the document, too. -/
theorem Placed.property {cursor : Cursor} (h : Placed document cursor)
    (distinct : document.Distinct) {name key : String} {value : Json}
    (hproperty : cursor.value.property? name = some (key, value)) :
    Placed document (cursor.child (.key key) value) := by
  obtain ⟨members, hvalue, hmember⟩ := mem_of_property? hproperty
  exact h.member distinct hvalue hmember

theorem inOrder_nil (document : Json) : InOrder document [] :=
  ⟨nofun, .nil⟩

theorem inOrder_singleton {cursor : Cursor} (h : Placed document cursor) :
    InOrder document [cursor] where
  placed := List.forall_mem_singleton.mpr h
  ordered := List.pairwise_singleton _ cursor

/-- From cursors of one depth, in order, a move that goes down leads to cursors in order. -/
theorem InOrder.flatMap {cursors : List Cursor} (h : InOrder document cursors) {depth : Nat}
    (level : ∀ cursor ∈ cursors, cursor.location.length = depth) {move : Cursor → List Cursor}
    (hmove : ∀ cursor ∈ cursors, InOrder document (move cursor))
    (hdown : ∀ cursor ∈ cursors, ∀ found ∈ move cursor, cursor.location <+: found.location) :
    InOrder document (cursors.flatMap move) where
  placed := List.forall_mem_flatMap.mpr fun cursor hcursor => (hmove cursor hcursor).placed
  ordered := by
    rw [List.pairwise_flatMap]
    refine ⟨fun cursor hcursor => (hmove cursor hcursor).ordered, ?_⟩
    apply h.ordered.imp_of_mem
    intro a b ha hb hbefore found hfound other hother
    obtain ⟨x, hx⟩ := hdown a ha found hfound
    obtain ⟨y, hy⟩ := hdown b hb other hother
    rw [← hx, ← hy]
    -- of one depth, the two starts part somewhere, so everything below them is apart, too
    exact hbefore.extend ((level a ha).trans (level b hb).symm) x y

/-! ## Selecting -/

/-- The members of an object are listed in the order of the document. -/
theorem memberChildren_inOrder {cursor : Cursor} (h : Placed document cursor)
    (distinct : document.Distinct) : InOrder document cursor.memberChildren where
  placed := by
    intro found hfound
    obtain ⟨members, key, value, hvalue, hmember, rfl⟩ := mem_memberChildren.mp hfound
    exact h.member distinct hvalue hmember
  ordered := by
    unfold memberChildren
    split
    · next members hvalue =>
      have hkeys := h.distinct distinct
      rw [hvalue] at hkeys
      rw [List.pairwise_map]
      apply (Json.members_precede hkeys.1).imp
      intro a b hbefore
      rw [← hvalue] at hbefore
      exact hbefore.within h
    · exact .nil

/-- The items of an array are listed in the order of the document. -/
theorem itemChildren_inOrder {cursor : Cursor} (h : Placed document cursor) :
    InOrder document cursor.itemChildren where
  placed := by
    intro found hfound
    obtain ⟨items, position, value, hvalue, hitem, rfl⟩ := mem_itemChildren.mp hfound
    exact h.item hvalue hitem
  ordered := by
    unfold itemChildren
    split
    · next items hvalue =>
      rw [List.pairwise_map]
      apply (Json.items_precede items).imp
      intro a b hbefore
      rw [← hvalue] at hbefore
      exact hbefore.within h
    · exact .nil

/-- A selector lists what it leads to in the order of the document. -/
theorem select_inOrder {cursor : Cursor} (h : Placed document cursor)
    (distinct : document.Distinct) (selector : Selector) :
    InOrder document (cursor.select selector) := by
  cases selector with
  | property name =>
      rw [select]
      split
      · next key value hproperty => exact inOrder_singleton (h.property distinct hproperty)
      · exact inOrder_nil document
  | anyChild =>
      -- a value has members or items, but not both
      rw [select]
      cases hvalue : cursor.value with
      | object members =>
          have hitems : cursor.itemChildren = [] := by rw [itemChildren, hvalue]
          rw [hitems, List.append_nil]
          exact memberChildren_inOrder h distinct
      | _ =>
          have hmembers : cursor.memberChildren = [] := by rw [memberChildren, hvalue]
          rw [hmembers, List.nil_append]
          exact itemChildren_inOrder h
  | allElements => exact itemChildren_inOrder h
  | index position =>
      rw [select]
      split
      · next items hvalue =>
        split
        · next value hitem => exact inOrder_singleton (h.item hvalue hitem)
        · exact inOrder_nil document
      · exact inOrder_nil document

/-- A selector leads one step down. -/
theorem select_location {cursor found : Cursor} {selector : Selector}
    (h : found ∈ cursor.select selector) :
    ∃ step, found.location = cursor.location ++ [step] := by
  have hmembers : found ∈ cursor.memberChildren →
      ∃ step, found.location = cursor.location ++ [step] := by
    intro h
    obtain ⟨_, key, value, -, -, rfl⟩ := mem_memberChildren.mp h
    exact ⟨.key key, rfl⟩
  have hitems : found ∈ cursor.itemChildren →
      ∃ step, found.location = cursor.location ++ [step] := by
    intro h
    obtain ⟨_, position, value, -, -, rfl⟩ := mem_itemChildren.mp h
    exact ⟨.index position, rfl⟩
  cases selector with
  | property name =>
      rw [select] at h
      split at h
      · next key value _ =>
        obtain rfl := List.mem_singleton.mp h
        exact ⟨.key key, rfl⟩
      · cases h
  | anyChild => exact (List.mem_append.mp h).elim hmembers hitems
  | allElements => exact hitems h
  | index position =>
      rw [select] at h
      split at h
      · split at h
        · obtain rfl := List.mem_singleton.mp h
          exact ⟨.index position, rfl⟩
        · cases h
      · cases h

/-- A list of scopes follows selectors as each of its scopes does. -/
theorem flatMap_follow (selectors : List Selector) (cursors : List Cursor) :
    cursors.flatMap (·.follow selectors) =
      selectors.foldl (fun cursors selector => cursors.flatMap (·.select selector)) cursors := by
  -- on the selectors, for any scopes to begin with
  induction selectors generalizing cursors with
  | nil => simp [follow]
  | cons selector rest ih =>
      rw [List.foldl_cons, ← ih, List.flatMap_assoc]
      apply List.flatMap_congr
      intro cursor _
      rw [follow, List.foldl_cons, ← ih, List.flatMap_singleton]

/-- Cursors of one depth, in order, are followed along selectors to cursors in order. -/
theorem InOrder.follow {cursors : List Cursor} (h : InOrder document cursors)
    (distinct : document.Distinct) {depth : Nat}
    (level : ∀ cursor ∈ cursors, cursor.location.length = depth) (selectors : List Selector) :
    InOrder document (cursors.flatMap (·.follow selectors)) := by
  rw [flatMap_follow]
  -- on the selectors; the invariant is that the cursors stand in order and are of one depth
  induction selectors generalizing cursors depth with
  | nil => exact h
  | cons selector rest ih =>
      have hnext : ∀ found ∈ cursors.flatMap (·.select selector),
          found.location.length = depth + 1 := by
        intro found hfound
        obtain ⟨cursor, hcursor, hmem⟩ := List.mem_flatMap.mp hfound
        obtain ⟨step, hstep⟩ := select_location hmem
        rw [hstep, List.length_append, level cursor hcursor, List.length_singleton]
      -- all cursors go down by one step, so the list stays of one depth
      refine ih (h.flatMap level ?_ ?_) hnext
      · exact fun cursor hcursor => select_inOrder (h.placed cursor hcursor) distinct selector
      · intro cursor hcursor found hfound
        obtain ⟨step, hstep⟩ := select_location hfound
        rw [hstep]
        exact List.prefix_append _ _

/-- A path lists what it leads to in the order of the document. -/
theorem resolve_inOrder {cursor : Cursor} (h : Placed document cursor)
    (distinct : document.Distinct) (path : RulePath) : InOrder document (cursor.resolve path) := by
  have level : ∀ found ∈ [cursor], found.location.length = cursor.location.length :=
    List.forall_mem_singleton.mpr rfl
  have hfollow := (inOrder_singleton h).follow distinct level path.selectors
  rwa [List.flatMap_singleton] at hfollow

/-- A path leads to the cursor itself or to places below it. -/
theorem resolve_location {cursor found : Cursor} {path : RulePath}
    (h : found ∈ cursor.resolve path) : cursor.location <+: found.location := by
  -- on the selectors, for any cursor to start from
  have hfollow : ∀ (selectors : List Selector) {start : Cursor},
      found ∈ start.follow selectors → start.location <+: found.location := by
    intro selectors
    induction selectors with
    | nil =>
        intro start hfound
        obtain rfl := List.mem_singleton.mp hfound
        exact List.prefix_refl _
    | cons selector rest ih =>
        intro start hfound
        rw [follow, List.foldl_cons, ← flatMap_follow, List.flatMap_singleton] at hfound
        obtain ⟨next, hnext, hmem⟩ := List.mem_flatMap.mp hfound
        obtain ⟨step, hstep⟩ := select_location hnext
        have hdown : start.location <+: next.location := ⟨[step], hstep.symm⟩
        exact hdown.trans (ih hmem)
  exact hfollow path.selectors h

/-! ## Searching for resources -/

/-- The search among the items of an array goes through the cursors at the items. -/
theorem resourcesAmong_items (resourceType : String) (outer : Option String)
    (collection : Location) (entries : List Json) :
    resourcesAmong resourceType outer collection 0 entries =
      (itemChildren ⟨collection, .array entries⟩).flatMap fun item =>
        resourcesAt resourceType outer item.location item.value := by
  rw [resourcesAmong_eq, itemChildren, List.flatMap_map]
  rfl

/-- A resource comes before those that it holds. -/
theorem resourcesAt_inOrder {resourceType : String} {outer : Option String} {item : Cursor}
    (h : Placed document item)
    (hbelow : InOrder document (resourcesBelow resourceType
      (qualifiedType? outer (declaredType? item.value)) item.location item.value)) :
    InOrder document (resourcesAt resourceType outer item.location item.value) := by
  unfold resourcesAt
  split
  · refine ⟨List.forall_mem_cons.mpr ⟨h, hbelow.placed⟩,
      List.pairwise_cons.mpr ⟨?_, hbelow.ordered⟩⟩
    -- what the resource holds lies strictly below it
    intro found hfound
    obtain ⟨step, rest, hlocation⟩ := Location.below_iff.mp (resourcesBelow_location hfound)
    have habove : Precedes item.value [] (step :: rest) := .above
    have hbefore := habove.within h
    rwa [List.append_nil, ← hlocation] at hbefore
  · simpa using hbelow

/-- The search lists the resources in the order of the document. -/
theorem resourcesBelow_inOrder (distinct : document.Distinct) (resourceType : String)
    (outer : Option String) (cursor : Cursor) (h : Placed document cursor) :
    InOrder document (resourcesBelow resourceType outer cursor.location cursor.value) := by
  rw [resourcesBelow_eq]
  cases hproperty : cursor.value.property? "resources" with
  | none => exact inOrder_nil document
  | some member =>
      obtain ⟨key, held⟩ := member
      cases held with
      | array entries =>
          -- the items are of one depth, however deep the resources below them lie
          have hitems := itemChildren_inOrder (h.property distinct hproperty)
          have hlevel : ∀ item ∈ (cursor.child (.key key) (.array entries)).itemChildren,
              item.location.length = cursor.location.length + 2 := by
            intro item hitem
            obtain ⟨_, position, value, -, -, rfl⟩ := mem_itemChildren.mp hitem
            simp [child]
          simp only [resourcesAmong_items]
          -- an item lists itself and what it holds, all at or below the item
          apply hitems.flatMap hlevel
          · intro item hitem
            have hplaced := hitems.placed item hitem
            exact resourcesAt_inOrder hplaced
              (resourcesBelow_inOrder distinct resourceType _ item hplaced)
          · intro item hitem found hfound
            rcases resourcesAt_location hfound with hsame | hbelow
            · exact hsame ▸ List.prefix_refl item.location
            · exact hbelow.1
      | _ => exact inOrder_nil document
termination_by sizeOf cursor.value
decreasing_by
  obtain ⟨items, position, value, harray, hposition, rfl⟩ := mem_itemChildren.mp hitem
  obtain rfl : entries = items := Json.array.inj harray
  have hlt := property?_sizeOf_lt hproperty
  have hinside := List.sizeOf_lt_of_mem (List.mem_of_getElem? hposition)
  simp [child] at hlt ⊢
  omega

theorem resources_inOrder {cursor : Cursor} (h : Placed document cursor)
    (distinct : document.Distinct) (resourceType : String) :
    InOrder document (cursor.resources resourceType) :=
  resourcesBelow_inOrder distinct resourceType none cursor h

/-! ## The scopes of expressions -/

/-- The scopes of a resource type stand in document order. -/
theorem candidates_inOrder {cursor : Cursor} (h : Placed document cursor)
    (distinct : document.Distinct) (resourceType : Option String) :
    InOrder document (Setting.candidates resourceType cursor) := by
  cases resourceType with
  | none => exact inOrder_singleton h
  | some resourceType => exact resources_inOrder h distinct resourceType

/-- So do the scopes to which a path leads. -/
theorem reached_inOrder {cursor : Cursor} (h : Placed document cursor)
    (distinct : document.Distinct) (path : Option RulePath) :
    InOrder document (cursor.reached path) := by
  cases path with
  | none => exact inOrder_singleton h
  | some path => exact resolve_inOrder h distinct path

theorem Placed.candidate {cursor target : Cursor} (h : Placed document cursor)
    (distinct : document.Distinct) {resourceType : Option String}
    (htarget : target ∈ Setting.candidates resourceType cursor) : Placed document target :=
  (candidates_inOrder h distinct resourceType).placed target htarget

theorem Placed.reached {cursor target : Cursor} (h : Placed document cursor)
    (distinct : document.Distinct) {path : Option RulePath}
    (htarget : target ∈ cursor.reached path) : Placed document target :=
  (reached_inOrder h distinct path).placed target htarget

end

/-! ## Scopes at different places

Scopes at different places may lie in each other, so that what a path finds from all of them need
not stand in document order. But every selector leads one step down, and no two scopes at different
places lead to the same place in that way.
-/

/-- Cursors at values of a document, no two of them at one place. -/
structure Spread (document : Json) (cursors : List Cursor) : Prop where
  placed : ∀ cursor ∈ cursors, Placed document cursor
  apart : cursors.Pairwise fun a b => a.location ≠ b.location

section

variable {document : Json} {cursors : List Cursor}

/-- Cursors in document order are at different places. -/
theorem InOrder.spread (h : InOrder document cursors) : Spread document cursors where
  placed := h.placed
  apart := h.ordered.imp Json.Precedes.ne

theorem Spread.filter (h : Spread document cursors) (keep : Cursor → Bool) :
    Spread document (cursors.filter keep) where
  placed := fun cursor hcursor => h.placed cursor (List.mem_of_mem_filter hcursor)
  apart := h.apart.filter keep

/-- Each selector of a path leads one step further down, so the places stay different. -/
theorem Spread.select (h : Spread document cursors) (distinct : document.Distinct)
    (selector : Selector) : Spread document (cursors.flatMap (·.select selector)) where
  placed := List.forall_mem_flatMap.mpr fun cursor hcursor =>
    (select_inOrder (h.placed cursor hcursor) distinct selector).placed
  apart := by
    rw [List.pairwise_flatMap]
    constructor
    · intro cursor hcursor
      exact (select_inOrder (h.placed cursor hcursor) distinct selector).spread.apart
    · apply h.apart.imp
      -- one place would be one step below two places
      intro a b hab found hfound other hother hsame
      obtain ⟨step, hstep⟩ := select_location hfound
      obtain ⟨step', hstep'⟩ := select_location hother
      rw [hstep, hstep'] at hsame
      exact hab (List.append_inj' hsame rfl).1

/-- A path leads from scopes at different places to scopes at different places. -/
theorem Spread.targets (h : Spread document cursors) (distinct : document.Distinct)
    (path : Option RulePath) : Spread document (Setting.targets path cursors) := by
  cases path with
  | none => exact h
  | some path =>
      change Spread document (cursors.flatMap (·.follow path.selectors))
      rw [flatMap_follow]
      generalize path.selectors = selectors
      -- on the selectors; there is no one depth to keep here, only that the places differ
      induction selectors generalizing cursors with
      | nil => exact h
      | cons selector rest ih => exact ih (h.select distinct selector)

end

/-! ## Cursors that can be reached -/

/-- The cursors to which steps lead from the root of a document. -/
inductive Reachable (document : Json) : Cursor → Prop where
  | root : Reachable document (root document)
  | resolved {cursor found : Cursor} (reachable : Reachable document cursor) (path : RulePath)
      (step : found ∈ cursor.resolve path) : Reachable document found
  | searched {cursor found : Cursor} (reachable : Reachable document cursor)
      (resourceType : String) (step : found ∈ cursor.resources resourceType) :
      Reachable document found

/-- What one step lists: places at the anchor or below it, no place twice, in document order. -/
structure Listed (document : Json) (anchor : Cursor) (found : List Cursor) : Prop where
  nodup : (found.map location).Nodup
  extends_anchor : ∀ cursor ∈ found, anchor.location <+: cursor.location
  ordered : found.Pairwise fun a b => Precedes document a.location b.location

/-- Cursors in order at or below an anchor are listed as they should be. -/
theorem InOrder.listed {document : Json} {anchor : Cursor} {found : List Cursor}
    (h : InOrder document found)
    (hdown : ∀ cursor ∈ found, anchor.location <+: cursor.location) :
    Listed document anchor found where
  nodup := List.pairwise_map.mpr (h.ordered.imp Precedes.ne)
  extends_anchor := hdown
  ordered := h.ordered

/-- Every step leads from a value of the document to values of the document. -/
theorem Reachable.placed {document : Json} (distinct : document.Distinct) {cursor : Cursor}
    (h : Reachable document cursor) : Placed document cursor := by
  -- on the steps that lead to the cursor
  induction h with
  | root => exact placed_root document
  | resolved reachable path step ih =>
      exact (resolve_inOrder ih distinct path).placed _ step
  | searched reachable resourceType step ih =>
      exact (resources_inOrder ih distinct resourceType).placed _ step

/-- If no object has a key twice, every cursor that can be reached has the value that is found by
following its location, and what a path or a search leads to from there is listed in document order,
no place twice, at the cursor or below it. -/
theorem reachable_listed {document : Json} (distinct : document.Distinct) {cursor : Cursor}
    (reachable : Reachable document cursor) :
    document.at? cursor.location = some cursor.value ∧
      (∀ path, Listed document cursor (cursor.resolve path)) ∧
      ∀ resourceType, Listed document cursor (cursor.resources resourceType) := by
  have hplaced := reachable.placed distinct
  refine ⟨hplaced, ?_, ?_⟩
  · intro path
    exact (resolve_inOrder hplaced distinct path).listed fun found hfound =>
      resolve_location hfound
  · intro resourceType
    exact (resources_inOrder hplaced distinct resourceType).listed fun found hfound =>
      (resourcesBelow_location hfound).1

/-- The site in its document is reached by a path. -/
theorem reachable_listed_site :
    (siteDocument "config").Distinct ∧ Reachable (siteDocument "config") (siteCursor "config") ∧
      ((siteDocument "config").at? (siteCursor "config").location =
          some (siteCursor "config").value ∧
        (∀ path, Listed (siteDocument "config") (siteCursor "config")
          ((siteCursor "config").resolve path)) ∧
        ∀ resourceType, Listed (siteDocument "config") (siteCursor "config")
          ((siteCursor "config").resources resourceType)) := by
  have hdistinct : (siteDocument "config").Distinct := by
    simp [siteDocument, siteHolding, Json.Distinct, Json.DistinctItems, Json.DistinctMembers,
      Table.keys]
  have hfound : siteCursor "config" ∈ (root (siteDocument "config")).resolve
      ⟨"resources[*]", [.property "resources", .allElements]⟩ := List.mem_singleton.mpr rfl
  have hreachable : Reachable (siteDocument "config") (siteCursor "config") :=
    .resolved .root _ hfound
  exact ⟨hdistinct, hreachable, reachable_listed hdistinct hreachable⟩

end Cursor

end TemplateAudit
