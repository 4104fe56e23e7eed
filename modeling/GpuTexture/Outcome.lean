/-!
# Answers that may be refusals

Every reader answers with a value or with the cause of a refusal. A chain of readers yields a value
exactly when each of them does, and otherwise the refusal of the first that does not.
-/

namespace GpuTexture.Outcome

variable {α β ε ε' : Type}

@[simp] theorem ok_bind (value : α) (next : α → Except ε β) :
    (Except.ok value >>= next) = next value := rfl

@[simp] theorem error_bind (error : ε) (next : α → Except ε β) :
    (Except.error error >>= next) = .error error := rfl

@[simp] theorem pure_eq_ok (value : α) : (pure value : Except ε α) = .ok value := rfl

@[simp] theorem throw_eq_error (error : ε) : (throw error : Except ε α) = .error error := rfl

@[simp] theorem map_ok (change : α → β) (value : α) :
    (Except.ok value : Except ε α).map change = .ok (change value) := rfl

@[simp] theorem map_error (change : α → β) (error : ε) :
    (Except.error error).map change = .error error := rfl

@[simp] theorem mapError_ok (change : ε → ε') (value : α) :
    (Except.ok value).mapError change = .ok value := rfl

@[simp] theorem mapError_error (change : ε → ε') (error : ε) :
    (Except.error error : Except ε α).mapError change = .error (change error) := rfl

theorem bind_eq_ok_iff {answer : Except ε α} {next : α → Except ε β} {result : β} :
    (answer >>= next) = .ok result ↔ ∃ value, answer = .ok value ∧ next value = .ok result := by
  cases answer <;> simp

theorem map_eq_ok_iff {answer : Except ε α} {change : α → β} {result : β} :
    answer.map change = .ok result ↔ ∃ value, answer = .ok value ∧ change value = result := by
  cases answer <;> simp

theorem mapError_eq_ok_iff {answer : Except ε α} {change : ε → ε'} {value : α} :
    answer.mapError change = .ok value ↔ answer = .ok value := by
  cases answer <;> simp

theorem exists_eq_error_iff {answer : Except ε α} :
    (∃ error, answer = .error error) ↔ ¬ ∃ value, answer = .ok value := by
  cases answer <;> simp

theorem map_map {γ : Type} (answer : Except ε α) (change : α → β) (further : β → γ) :
    (answer.map change).map further = answer.map fun value => further (change value) := by
  cases answer <;> rfl

theorem map_bind {γ : Type} (answer : Except ε α) (change : α → β) (next : β → Except ε γ) :
    (answer.map change >>= next) = answer >>= fun value => next (change value) := by
  cases answer <;> rfl

/-- An answer of which something is shown is a value. -/
theorem exists_ok_of_toOption_map {answer : Except ε α} {view : α → β} {shown : β}
    (h : answer.toOption.map view = some shown) :
    ∃ value, answer = .ok value ∧ view value = shown := by
  cases answer with
  | error error => cases h
  | ok value => exact ⟨value, rfl, Option.some.inj h⟩

theorem mapM_eq_ok {answer : α → Except ε β} {value : α → β} {items : List α}
    (hall : ∀ item ∈ items, answer item = .ok (value item)) :
    items.mapM answer = .ok (items.map value) := by
  induction items with
  | nil => rfl
  | cons item rest ih =>
    have hhead := hall item List.mem_cons_self
    have htail := ih fun other hother => hall other (List.mem_cons_of_mem _ hother)
    rw [List.mapM_cons, hhead, ok_bind, htail, ok_bind]
    rfl

end GpuTexture.Outcome
