import Mathlib.Data.List.Forall2

/-! Computations that may fail: what it means that one with further steps, or a whole list of them,
succeeds. -/

namespace AngularLint.Proofs.Outcomes

universe u v w

variable {ε : Type u} {α β : Type v}

theorem map_eq_ok_iff {γ : Type w} {result : Except ε α} {f : α → γ} {c : γ} :
    result.map f = .ok c ↔ ∃ a, result = .ok a ∧ f a = c := by
  cases result <;> simp [Except.map]

theorem map_eq_error_iff {γ : Type w} {result : Except ε α} {f : α → γ} {fault : ε} :
    result.map f = .error fault ↔ result = .error fault := by
  cases result <;> simp [Except.map]

theorem mapError_eq_ok_iff {ε' : Type w} {result : Except ε α} {f : ε → ε'} {a : α} :
    result.mapError f = .ok a ↔ result = .ok a := by
  cases result <;> simp [Except.mapError]

theorem bind_eq_ok_iff {result : Except ε α} {f : α → Except ε β} {b : β} :
    result >>= f = .ok b ↔ ∃ a, result = .ok a ∧ f a = .ok b := by
  cases result <;> simp [bind, Except.bind]

/-- A list of computations succeeds if each one does, and gives their results in order. -/
theorem mapM_eq_ok_iff {f : α → Except ε β} {items : List α} {results : List β} :
    items.mapM f = .ok results ↔
      List.Forall₂ (fun item result => f item = .ok result) items results := by
  induction items generalizing results with
  | nil => cases results <;> simp [pure, Except.pure]
  | cons item rest ih =>
    rw [List.mapM_cons, bind_eq_ok_iff]
    constructor
    · rintro ⟨first, made, bound⟩
      obtain ⟨others, later, same⟩ := bind_eq_ok_iff.mp bound
      cases same
      exact .cons made (ih.mp later)
    · rintro (_ | ⟨made, later⟩)
      exact ⟨_, made, bind_eq_ok_iff.mpr ⟨_, ih.mpr later, rfl⟩⟩

theorem bind_eq_error_iff {result : Except ε α} {f : α → Except ε β} {fault : ε} :
    result >>= f = .error fault ↔
      result = .error fault ∨ ∃ a, result = .ok a ∧ f a = .error fault := by
  cases result <;> simp [bind, Except.bind]

/-- A list of computations fails at the first one that does. -/
theorem mapM_eq_error_iff {f : α → Except ε β} {items : List α} {fault : ε} :
    items.mapM f = .error fault ↔
      ∃ before item after, items = before ++ item :: after ∧
        (∀ earlier ∈ before, ∃ result, f earlier = .ok result) ∧ f item = .error fault := by
  induction items with
  | nil => simp [pure, Except.pure]
  | cons item rest ih =>
    rw [List.mapM_cons, bind_eq_error_iff]
    constructor
    · rintro (here | ⟨first, made, bound⟩)
      · exact ⟨[], item, rest, rfl, List.forall_mem_nil _, here⟩
      · rcases bind_eq_error_iff.mp bound with later | ⟨others, _, same⟩
        · obtain ⟨before, failing, after, rfl, fine, failed⟩ := ih.mp later
          exact ⟨item :: before, failing, after, rfl,
            List.forall_mem_cons.mpr ⟨⟨first, made⟩, fine⟩, failed⟩
        · cases same
    · rintro ⟨before, failing, after, split, fine, failed⟩
      cases before with
      | nil =>
        cases split
        exact .inl failed
      | cons first before =>
        cases split
        obtain ⟨⟨result, made⟩, others⟩ := List.forall_mem_cons.mp fine
        have later := ih.mpr ⟨before, failing, after, rfl, others, failed⟩
        exact .inr ⟨result, made, bind_eq_error_iff.mpr (.inl later)⟩

theorem forall₂_mem {γ : Type w} {holds : α → γ → Prop} {items : List α} {results : List γ}
    (each : List.Forall₂ holds items results) {result : γ} (member : result ∈ results) :
    ∃ item ∈ items, holds item result := by
  induction each with
  | nil => cases member
  | cons first _ ih =>
    rcases List.mem_cons.mp member with rfl | later
    · exact ⟨_, List.mem_cons_self, first⟩
    · obtain ⟨item, inside, held⟩ := ih later
      exact ⟨item, List.mem_cons_of_mem _ inside, held⟩

theorem forall₂_getElem? {γ : Type w} {holds : α → γ → Prop} {items : List α} {results : List γ}
    (each : List.Forall₂ holds items results) {index : Nat} {item : α} {result : γ}
    (here : items[index]? = some item) (there : results[index]? = some result) :
    holds item result := by
  obtain ⟨inside, rfl⟩ := List.getElem?_eq_some_iff.mp here
  obtain ⟨too, rfl⟩ := List.getElem?_eq_some_iff.mp there
  exact each.get inside too

theorem mem_of_mapM_eq_ok {f : α → Except ε β} {items : List α} {results : List β}
    (made : items.mapM f = .ok results) {result : β} (member : result ∈ results) :
    ∃ item ∈ items, f item = .ok result :=
  forall₂_mem (mapM_eq_ok_iff.mp made) member

end AngularLint.Proofs.Outcomes
