import Mathlib.Data.List.Forall2

/-!
# CommitCharts.Proofs.Reading — readings that can fail

A reading goes on for as long as nothing fails, and the error of the first step that fails is its error.  A list is read
item by item (`mapM_eq_ok_iff`), and its error is that of the first item that cannot be read (`mapM_eq_error_iff`).
-/

namespace CommitCharts

/-! ### Steps -/

theorem bind_eq_ok {ε α β : Type} {x : Except ε α} {f : α → Except ε β} {b : β} :
    (x >>= f) = .ok b ↔ ∃ a, x = .ok a ∧ f a = .ok b := by
  cases x <;> simp [bind, Except.bind]

/-- Two readings in sequence: an error of the first one counts, or else one of the second. -/
theorem bind_eq_error_iff {ε α β : Type} {x : Except ε α} {f : α → Except ε β} {first second : Option ε}
    (hfirst : ∀ e, x = .error e ↔ first = some e) (hsecond : ∀ a, x = .ok a → ∀ e, f a = .error e ↔ second = some e)
    (e : ε) : (x >>= f) = .error e ↔ first.or second = some e := by
  cases x with
  | error e' =>
    rw [(hfirst e').1 rfl, Option.some_or, Option.some_inj]
    exact ⟨Except.error.inj, congrArg _⟩
  | ok a =>
    have hnone : first = none := Option.eq_none_iff_forall_ne_some.2 fun e' he => by cases (hfirst e').2 he
    rw [hnone, Option.none_or]
    exact hsecond a rfl e

theorem mapError_eq_ok_iff {ε ε' α : Type} {x : Except ε α} {g : ε → ε'} {a : α} :
    x.mapError g = .ok a ↔ x = .ok a := by
  cases x <;> simp [Except.mapError]

theorem mapError_eq_error_iff {ε ε' α : Type} {x : Except ε α} {g : ε → ε'} {e : ε'} :
    x.mapError g = .error e ↔ ∃ cause, x = .error cause ∧ g cause = e := by
  cases x <;> simp [Except.mapError]

theorem map_eq_ok_iff {ε α β : Type} {x : Except ε α} {g : α → β} {b : β} :
    x.map g = .ok b ↔ ∃ a, x = .ok a ∧ g a = b := by
  cases x <;> simp [Except.map]

theorem map_eq_error_iff {ε α β : Type} {x : Except ε α} {g : α → β} {e : ε} : x.map g = .error e ↔ x = .error e := by
  cases x <;> simp [Except.map]

/-! ### Lists -/

section

variable {ε α β : Type} {f : α → Except ε β} {xs ys : List α} {e : ε}

/-- A list is read item by item: the result has one value for each. -/
theorem mapM_eq_ok_iff {bs : List β} : xs.mapM f = .ok bs ↔ List.Forall₂ (fun x b => f x = .ok b) xs bs := by
  induction xs generalizing bs with
  | nil => cases bs <;> simp [pure, Except.pure]
  | cons x xs ih =>
    rw [List.mapM_cons]
    cases hx : f x with
    | error e => cases bs <;> simp [hx, bind, Except.bind]
    | ok b =>
      cases hxs : xs.mapM f with
      | error e => cases bs <;> simp [hx, hxs, ← ih, bind, Except.bind]
      | ok bs' => cases bs <;> simp [hx, hxs, ← ih, bind, Except.bind, pure, Except.pure]

theorem mapM_take_of_ok {bs : List β} (h : xs.mapM f = .ok bs) (n : Nat) : (xs.take n).mapM f = .ok (bs.take n) :=
  mapM_eq_ok_iff.2 (List.forall₂_take n (mapM_eq_ok_iff.1 h))

theorem mapM_drop_of_ok {bs : List β} (h : xs.mapM f = .ok bs) (n : Nat) : (xs.drop n).mapM f = .ok (bs.drop n) :=
  mapM_eq_ok_iff.2 (List.forall₂_drop n (mapM_eq_ok_iff.1 h))

/-- What fails in a first part of a list fails in the list. -/
theorem mapM_eq_error_of_prefix (hpre : xs <+: ys) (h : xs.mapM f = .error e) : ys.mapM f = .error e := by
  obtain ⟨rest, rfl⟩ := hpre
  rw [List.mapM_append, h]
  rfl

/-- Reading a list item by item fails with the first item that cannot be read. -/
theorem mapM_eq_error_iff :
    xs.mapM f = .error e ↔
      ∃ before x after, xs = before ++ x :: after ∧ (∀ y ∈ before, ∃ b, f y = .ok b) ∧ f x = .error e := by
  constructor
  · intro h
    induction xs with
    | nil => cases h
    | cons x xs ih =>
      rw [List.mapM_cons] at h
      cases hx : f x with
      | error e' =>
        rw [hx] at h
        cases h
        exact ⟨[], x, xs, rfl, List.forall_mem_nil _, hx⟩
      | ok b =>
        cases hxs : xs.mapM f with
        | error e' =>
          rw [hx, hxs] at h
          cases h
          obtain ⟨before, y, after, rfl, hbefore, hy⟩ := ih hxs
          exact ⟨x :: before, y, after, rfl, List.forall_mem_cons.2 ⟨⟨b, hx⟩, hbefore⟩, hy⟩
        | ok bs =>
          rw [hx, hxs] at h
          cases h
  · rintro ⟨before, x, after, rfl, hbefore, hx⟩
    induction before with
    | nil =>
      rw [List.nil_append, List.mapM_cons, hx]
      rfl
    | cons y before ih =>
      obtain ⟨⟨b, hy⟩, hbefore⟩ := List.forall_mem_cons.1 hbefore
      rw [List.cons_append, List.mapM_cons, hy, ih hbefore]
      rfl

/-- Every item of a list that is read can be read. -/
theorem exists_ok_of_mem {bs : List β} (h : xs.mapM f = .ok bs) {x : α} (hx : x ∈ xs) : ∃ b, f x = .ok b := by
  obtain ⟨before, after, rfl⟩ := List.append_of_mem hx
  rw [List.mapM_append, List.mapM_cons] at h
  obtain ⟨_, _, h⟩ := bind_eq_ok.1 h
  obtain ⟨_, hafter, _⟩ := bind_eq_ok.1 h
  obtain ⟨b, hb, _⟩ := bind_eq_ok.1 hafter
  exact ⟨b, hb⟩

end

end CommitCharts
