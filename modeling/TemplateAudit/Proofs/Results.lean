namespace TemplateAudit

/-! # Steps that may fail

Readers, loaders and the evaluator are chains of steps the first failure of which ends the chain.
These rules take such a chain apart.
-/

variable {ε α β : Type}

/-- A chain goes on from a result. -/
@[simp] theorem ok_bind (a : α) (f : α → Except ε β) : Except.ok a >>= f = f a := rfl

@[simp] theorem map_ok (f : α → β) (a : α) : f <$> (.ok a : Except ε α) = .ok (f a) := rfl

@[simp] theorem pure_ok_iff {a b : α} : (pure a : Except ε α) = .ok b ↔ a = b := by
  simp [pure, Except.pure]

/-- A chain succeeds exactly if its first step does and the others succeed on its result. -/
theorem bind_ok_iff {x : Except ε α} {f : α → Except ε β} {b : β} :
    x >>= f = .ok b ↔ ∃ a, x = .ok a ∧ f a = .ok b := by
  rcases x with e | a
  · simp [bind, Except.bind]
  · simp [bind, Except.bind]

/-- Mapping keeps failures, so the result was there before. -/
theorem map_ok_iff {f : α → β} {result : Except ε α} {b : β} :
    result.map f = .ok b ↔ ∃ a, result = .ok a ∧ b = f a := by
  cases result <;> simp [Except.map, eq_comm]

/-- The result of a chain that is known to succeed. It is kept closed, so that no one runs the chain
who only speaks of its result. -/
@[irreducible] def resultOf (x : Except ε α) (h : x.isOk = true) : α :=
  match x, h with
  | .ok a, _ => a

/-- The chain gives its result. -/
theorem eq_ok_resultOf {x : Except ε α} (h : x.isOk = true) : x = .ok (resultOf x h) := by
  cases x with
  | error error => cases h
  | ok a => rw [resultOf]

end TemplateAudit
