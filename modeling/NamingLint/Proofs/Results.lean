/-!
Computations that may fail. A chain of them succeeds exactly where each of its links does. Which
failure a chain ends with is not treated here.
-/

namespace NamingLint

/-- A computation that gives the same on marked values, but marked, can be done before marking. -/
theorem bind_map_comm {ε α β : Type} {mark : α → α} {mark' : β → β} {f : α → Except ε β}
    (comm : ∀ a, f (mark a) = (f a).map mark') (x : Except ε α) :
    x.map mark >>= f = (x >>= f).map mark' := by
  cases x with
  | error e => rfl
  | ok a => exact comm a

theorem bind_eq_ok {ε α β : Type} {x : Except ε α} {f : α → Except ε β} {b : β}
    (h : x >>= f = .ok b) : ∃ a, x = .ok a ∧ f a = .ok b := by
  cases x with
  | error e => cases h
  | ok a => exact ⟨a, rfl, h⟩

theorem bind_eq_ok_iff {ε α β : Type} {x : Except ε α} {f : α → Except ε β} {b : β} :
    x >>= f = .ok b ↔ ∃ a, x = .ok a ∧ f a = .ok b := by
  refine ⟨bind_eq_ok, ?_⟩
  rintro ⟨a, rfl, h⟩
  exact h

/-- Elements that are read where they have a value make a list where all of them have one. -/
theorem mapM_eq_ok_iff {ε α β : Type} {f : α → Except ε β} {g : α → Option β}
    (h : ∀ a b, f a = .ok b ↔ g a = some b) (list : List α) (values : List β) :
    list.mapM f = .ok values ↔ list.mapM g = some values := by
  induction list generalizing values with
  | nil => simp [pure, Except.pure]
  | cons a rest ih =>
      simp only [List.mapM_cons, bind_eq_ok_iff, Option.bind_eq_bind, Option.bind_eq_some_iff, h,
        ih, pure, Except.pure, Except.ok.injEq, Option.some.injEq]

theorem exists_of_any_toOption {ε α : Type} {x : Except ε α} {p : α → Prop} [DecidablePred p]
    (h : x.toOption.any fun a => p a) : ∃ a, x = .ok a ∧ p a := by
  cases x with
  | error e => cases h
  | ok a => exact ⟨a, rfl, of_decide_eq_true h⟩

end NamingLint
