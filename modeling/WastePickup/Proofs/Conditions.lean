import WastePickup.Store.Lookup

/-!
# Conditions in order

What stands in the way of a request is looked for in a fixed order, and the first thing that is
found gives the refusal. So a request is described by the list of its conditions: it goes through
exactly if all of them hold, and is refused for the first that does not. Calculations that are done
one after the other have their lists one behind the other.

* `AnswersTo.bind`: the conditions of a calculation that goes on.
* `AnswersTo.ok_iff`, `AnswersTo.error_iff`: when a result is no refusal, and when it is which.
-/

namespace WastePickup

/-- Something that has to hold, and the refusal where it does not. -/
structure Condition where
  holds : Prop
  refusal : Refusal

/-- A result answers to conditions, in their order: the first that fails gives the refusal, and if
none does, there is none. -/
inductive AnswersTo {α : Type} : List Condition → Except Refusal α → Prop where
  | done (a : α) : AnswersTo [] (.ok a)
  | fails {c : Condition} {rest : List Condition} (h : ¬c.holds) :
      AnswersTo (c :: rest) (.error c.refusal)
  | holds {c : Condition} {rest : List Condition} {x : Except Refusal α} (h : c.holds)
      (others : AnswersTo rest x) : AnswersTo (c :: rest) x

/-- The first condition that fails has a refusal. -/
def FailsFirst (conditions : List Condition) (refusal : Refusal) : Prop :=
  ∃ before c after, conditions = before ++ c :: after ∧ (∀ d ∈ before, d.holds) ∧ ¬c.holds ∧
    c.refusal = refusal

namespace AnswersTo

variable {α β : Type} {conditions others : List Condition} {x : Except Refusal α}

/-- A check answers to what it checks, and then to what comes behind it. -/
theorem ite {holds : Prop} [Decidable holds] {refusal : Refusal}
    (h : holds → AnswersTo others x) :
    AnswersTo (⟨holds, refusal⟩ :: others) (if holds then x else .error refusal) := by
  by_cases hc : holds
  · rw [if_pos hc]
    exact .holds hc (h hc)
  · rw [if_neg hc]
    exact .fails hc

/-- A refusal that nothing can avert. -/
theorem refused (refusal : Refusal) :
    AnswersTo [⟨False, refusal⟩] (.error refusal : Except Refusal α) :=
  .fails id

/-- A calculation that goes on answers to its conditions and then to those of what comes next. -/
theorem bind {f : α → Except Refusal β} (h : AnswersTo conditions x)
    (next : ∀ a, x = .ok a → AnswersTo others (f a)) :
    AnswersTo (conditions ++ others) (x >>= f) := by
  induction h with
  | done a => exact next a rfl
  | fails h => exact .fails h
  | holds h _ ih => exact .holds h (ih next)

/-- What is made of a result answers to the same conditions. -/
theorem map (h : AnswersTo conditions x) (f : α → β) : AnswersTo conditions (x.map f) := by
  induction h with
  | done a => exact .done (f a)
  | fails h => exact .fails h
  | holds h _ ih => exact .holds h ih

/-- What is computed from a value answers to the same conditions. -/
theorem bind_pure (h : AnswersTo conditions x) (f : α → β) :
    AnswersTo conditions (x >>= fun a => pure (f a)) := by
  rw [← List.append_nil conditions]
  exact h.bind fun a _ => .done (f a)

/-- There is a result exactly if all conditions hold. -/
theorem ok_iff (h : AnswersTo conditions x) :
    (∃ a, x = .ok a) ↔ ∀ c ∈ conditions, c.holds := by
  induction h with
  | done a => exact iff_of_true ⟨a, rfl⟩ (by simp)
  | fails h =>
    refine iff_of_false ?_ fun all => h (all _ List.mem_cons_self)
    rintro ⟨a, ha⟩
    cases ha
  | holds h _ ih => rw [ih, List.forall_mem_cons, and_iff_right h]

/-- There is a refusal exactly if it is that of the first condition that fails. -/
theorem error_iff (h : AnswersTo conditions x) {refusal : Refusal} :
    x = .error refusal ↔ FailsFirst conditions refusal := by
  induction h with
  | done a =>
    refine iff_of_false nofun ?_
    rintro ⟨before, c, after, heq, -⟩
    simp at heq
  | @fails c rest h =>
    constructor
    · intro heq
      exact ⟨[], c, rest, rfl, by simp, h, Except.error.inj heq⟩
    · rintro ⟨before, d, after, heq, passed, -, hrefusal⟩
      cases before with
      | nil =>
        cases heq
        rw [hrefusal]
      | cons e before =>
        cases heq
        exact absurd (passed _ List.mem_cons_self) h
  | @holds c rest x h _ ih =>
    rw [ih]
    constructor
    · rintro ⟨before, d, after, rfl, passed, hd⟩
      exact ⟨c :: before, d, after, rfl, List.forall_mem_cons.2 ⟨h, passed⟩, hd⟩
    · rintro ⟨before, d, after, heq, passed, hd, hrefusal⟩
      cases before with
      | nil =>
        cases heq
        exact absurd h hd
      | cons e before =>
        cases heq
        exact ⟨before, d, after, rfl, fun e he => passed e (List.mem_cons_of_mem _ he), hd,
          hrefusal⟩

end AnswersTo

/-! ## Numbers -/

/-- A number that is put to the store has to fit. -/
theorem requireFits_answers (n : Int) :
    AnswersTo [⟨Number.fits64 n = true, .broken .numberTooLarge⟩] (requireFits n) :=
  .ite fun _ => .done ()

end WastePickup
