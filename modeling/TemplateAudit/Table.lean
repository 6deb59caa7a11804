/-! # Tables that keep the order of insertion

A table is a list of pairs in which a key occurs once. Writing a key that is present replaces its
value and keeps its place; a new key goes to the end.
-/

namespace TemplateAudit.Table

variable {α : Type} {β : Type}

/-- The keys of a table, in order. -/
def keys (table : List (α × β)) : List α :=
  table.map Prod.fst

/-- Writes `value` under `key`. -/
def insert [BEq α] (key : α) (value : β) : List (α × β) → List (α × β)
  | [] => [(key, value)]
  | (k, v) :: rest => if k == key then (k, value) :: rest else (k, v) :: insert key value rest

/-- The table that results from writing the pairs one after the other. -/
def ofPairs [BEq α] (pairs : List (α × β)) : List (α × β) :=
  pairs.foldl (fun table pair => insert pair.1 pair.2 table) []

/-- Whether a key is present. -/
def has [BEq α] (key : α) (table : List (α × β)) : Bool :=
  (table.lookup key).isSome

theorem lookup_insert_self [BEq α] [LawfulBEq α] (key : α) (value : β) (table : List (α × β)) :
    (insert key value table).lookup key = some value := by
  induction table with
  | nil => simp [insert]
  | cons pair rest ih =>
    obtain ⟨k, v⟩ := pair
    by_cases h : k == key
    · have hk : k = key := by simpa using h
      simp [insert, hk]
    · have hk : ¬ key == k := by
        intro h'
        exact h (by simpa using (eq_of_beq h').symm)
      simp [insert, h, List.lookup_cons, hk, ih]

theorem lookup_insert_of_ne [BEq α] [LawfulBEq α] {key other : α} (h : other ≠ key) (value : β)
    (table : List (α × β)) : (insert key value table).lookup other = table.lookup other := by
  induction table with
  | nil =>
    have h' : (other == key) = false := by simpa using h
    simp [insert, List.lookup_cons, h']
  | cons pair rest ih =>
    obtain ⟨k, v⟩ := pair
    by_cases hk : k == key
    · have hk' : k = key := by simpa using hk
      have h' : (other == key) = false := by simpa using h
      simp [insert, hk', List.lookup_cons, h']
    · simp [insert, hk, List.lookup_cons, ih]

/-- Of the pairs with one key the last one counts. -/
theorem lookup_ofPairs [BEq α] [LawfulBEq α] (key : α) (pairs : List (α × β)) :
    (ofPairs pairs).lookup key = pairs.reverse.lookup key := by
  have hfold : ∀ table : List (α × β),
      (pairs.foldl (fun table pair => insert pair.1 pair.2 table) table).lookup key =
        (pairs.reverse.lookup key).or (table.lookup key) := by
    induction pairs with
    | nil => simp
    | cons pair rest ih =>
      intro table
      rw [List.foldl_cons, ih, List.reverse_cons, List.lookup_append]
      obtain ⟨k, value⟩ := pair
      by_cases hk : key = k
      · subst hk
        simp [lookup_insert_self]
      · have hne : (key == k) = false := by simpa using hk
        simp [lookup_insert_of_ne hk, List.lookup_cons, hne]
  simpa [ofPairs] using hfold []

/-- The keys that are written are those that are present. -/
theorem has_ofPairs [BEq α] [LawfulBEq α] {key : α} {pairs : List (α × β)} :
    has key (ofPairs pairs) = true ↔ key ∈ keys pairs := by
  rw [has, lookup_ofPairs, List.lookup_isSome_iff]
  simp [keys]

/-- Leaving out other keys does not change what is under a key. -/
theorem lookup_filter [BEq α] [LawfulBEq α] {key : α} {keep : α → Bool} (h : keep key = true)
    (table : List (α × β)) :
    (table.filter fun pair => keep pair.1).lookup key = table.lookup key := by
  induction table with
  | nil => rfl
  | cons pair rest ih =>
    obtain ⟨k, v⟩ := pair
    by_cases hkey : key = k
    · subst hkey
      simp [h]
    · have hne : (key == k) = false := by simpa using hkey
      by_cases hkeep : keep k = true
      · simp [hkeep, List.lookup_cons, hne, ih]
      · simp [hkeep, List.lookup_cons, hne, ih]

/-- Where no key occurs twice, a lookup finds every pair. -/
theorem lookup_eq_some_iff_mem [BEq α] [LawfulBEq α] {key : α} {value : β} {table : List (α × β)}
    (h : (keys table).Nodup) : table.lookup key = some value ↔ (key, value) ∈ table := by
  induction table with
  | nil => simp
  | cons pair rest ih =>
    obtain ⟨k, v⟩ := pair
    obtain ⟨hk, hrest⟩ := List.nodup_cons.mp h
    by_cases heq : key = k
    · subst heq
      have hnone : (key, value) ∉ rest := fun hmem =>
        hk (List.mem_map.mpr ⟨(key, value), hmem, rfl⟩)
      simp [hnone, eq_comm]
    · have hne : (key == k) = false := by simpa using heq
      simp [List.lookup_cons, hne, heq, ih hrest]

/-- A key has the same value however the pairs are ordered. -/
theorem lookup_perm [BEq α] [LawfulBEq α] {table other : List (α × β)} (h : (keys table).Nodup)
    (perm : table.Perm other) (key : α) : other.lookup key = table.lookup key := by
  have hother : (keys other).Nodup := (perm.map Prod.fst).nodup h
  apply Option.ext
  intro value
  rw [lookup_eq_some_iff_mem hother, lookup_eq_some_iff_mem h, perm.mem_iff]

/-- What a lookup finds is there. -/
theorem mem_of_lookup [BEq α] [LawfulBEq α] {key : α} {value : β} {table : List (α × β)}
    (h : table.lookup key = some value) : (key, value) ∈ table := by
  obtain ⟨before, after, rfl, -⟩ := List.lookup_eq_some_iff.mp h
  simp

/-- What is present after writing has been written or was there before. -/
theorem mem_insert [BEq α] [LawfulBEq α] {key : α} {value : β} {table : List (α × β)}
    {pair : α × β} (h : pair ∈ insert key value table) : pair = (key, value) ∨ pair ∈ table := by
  induction table with
  | nil => simpa [insert] using h
  | cons first rest ih =>
    obtain ⟨k, v⟩ := first
    rw [insert] at h
    split at h
    · next hkey =>
      obtain rfl : k = key := eq_of_beq hkey
      rcases List.mem_cons.mp h with rfl | h
      · exact .inl rfl
      · exact .inr (List.mem_cons_of_mem _ h)
    · rcases List.mem_cons.mp h with rfl | h
      · exact .inr List.mem_cons_self
      · exact (ih h).imp_right (List.mem_cons_of_mem _)

/-- Writing keeps the keys apart. -/
theorem nodup_keys_insert [BEq α] [LawfulBEq α] {table : List (α × β)} (h : (keys table).Nodup)
    (key : α) (value : β) : (keys (insert key value table)).Nodup := by
  induction table with
  | nil => simp [insert, keys]
  | cons first rest ih =>
    obtain ⟨k, v⟩ := first
    obtain ⟨hk, hrest⟩ := List.nodup_cons.mp h
    rw [insert]
    split
    · exact h
    · next hkey =>
      refine List.nodup_cons.mpr ⟨?_, ih hrest⟩
      intro hmem
      obtain ⟨pair, hpair, hfirst⟩ := List.mem_map.mp hmem
      have hfirst' : pair.1 = k := hfirst
      rcases mem_insert hpair with rfl | hpair
      · exact hkey (beq_iff_eq.mpr hfirst'.symm)
      · exact hk (List.mem_map.mpr ⟨pair, hpair, hfirst⟩)

theorem nodup_keys_ofPairs [BEq α] [LawfulBEq α] (pairs : List (α × β)) :
    (keys (ofPairs pairs)).Nodup := by
  refine List.foldlRecOn pairs _ (motive := fun table => (keys table).Nodup) ?_ ?_
  · exact List.nodup_nil
  · intro table htable pair _
    exact nodup_keys_insert htable pair.1 pair.2

/-- A new key goes to the end. -/
theorem insert_of_notMem [BEq α] [LawfulBEq α] {key : α} {table : List (α × β)}
    (h : key ∉ keys table) (value : β) : insert key value table = table ++ [(key, value)] := by
  induction table with
  | nil => rfl
  | cons first rest ih =>
    obtain ⟨k, v⟩ := first
    rw [keys, List.map_cons, List.mem_cons, not_or] at h
    obtain ⟨hk, hrest⟩ := h
    rw [insert, if_neg (by simpa using Ne.symm hk), ih hrest, List.cons_append]

/-- Pairs of different keys are a table already. -/
theorem ofPairs_of_nodup [BEq α] [LawfulBEq α] {pairs : List (α × β)} (h : (keys pairs).Nodup) :
    ofPairs pairs = pairs := by
  have hfold : ∀ table : List (α × β), (keys (table ++ pairs)).Nodup →
      pairs.foldl (fun table pair => insert pair.1 pair.2 table) table = table ++ pairs := by
    clear h
    induction pairs with
    | nil => simp
    | cons pair rest ih =>
      intro table htable
      have hnew : pair.1 ∉ keys table := by
        intro hmem
        rw [keys, List.map_append, List.nodup_append] at htable
        exact htable.2.2 pair.1 hmem pair.1 (by simp) rfl
      rw [List.foldl_cons, insert_of_notMem hnew, ih, List.append_assoc]
      · rfl
      · simpa using htable
  exact hfold [] h

theorem mem_ofPairs [BEq α] [LawfulBEq α] {pairs : List (α × β)} :
    ∀ pair ∈ ofPairs pairs, pair ∈ pairs := by
  refine List.foldlRecOn pairs _ (motive := fun table => ∀ pair ∈ table, pair ∈ pairs) ?_ ?_
  · simp
  · intro table htable written hwritten pair hpair
    rcases mem_insert hpair with rfl | hpair
    · exact hwritten
    · exact htable pair hpair

end TemplateAudit.Table
