/-! # Computations that consult somebody

    Cleaning a formula consults the name rules of its sheet, and evaluating
    it consults the other cells.  Which questions were put, and in which
    order, is part of the behaviour: both stop at the first failure and put no
    further question.  A `Consultation` is such a computation together with
    the questions it has put. -/

namespace Worksheet

/-- A computation with the questions it puts, in order, and its result. -/
structure Consultation (Q ε α : Type) where
  asked : List Q
  result : Except ε α

namespace Consultation

variable {Q ε α β γ : Type}

/-- The computation that puts no question and gives `a`. -/
def give (a : α) : Consultation Q ε α :=
  ⟨[], .ok a⟩

/-- The computation that puts no question and fails. -/
def fail (e : ε) : Consultation Q ε α :=
  ⟨[], .error e⟩

/-- The computation that puts one question and has its answer as result. -/
def ask (q : Q) (answer : Except ε α) : Consultation Q ε α :=
  ⟨[q], answer⟩

/-- First `x`, then what `f` makes of its result; nothing after a failure. -/
def andThen (x : Consultation Q ε α) (f : α → Consultation Q ε β) : Consultation Q ε β :=
  match x.result with
  | .error e => ⟨x.asked, .error e⟩
  | .ok a => ⟨x.asked ++ (f a).asked, (f a).result⟩

instance : Monad (Consultation Q ε) where
  pure := give
  bind := andThen

@[simp] theorem pure_eq (a : α) : (pure a : Consultation Q ε α) = ⟨[], .ok a⟩ := rfl

theorem bind_eq (x : Consultation Q ε α) (f : α → Consultation Q ε β) :
    x >>= f = andThen x f := rfl

@[simp] theorem bind_ok (asked : List Q) (a : α) (f : α → Consultation Q ε β) :
    (⟨asked, .ok a⟩ : Consultation Q ε α) >>= f = ⟨asked ++ (f a).asked, (f a).result⟩ := rfl

@[simp] theorem bind_error (asked : List Q) (e : ε) (f : α → Consultation Q ε β) :
    (⟨asked, .error e⟩ : Consultation Q ε α) >>= f = ⟨asked, .error e⟩ := rfl

/-- The result of two computations one after the other depends on their results
    only. -/
theorem result_bind_eq (x : Consultation Q ε α) (f : α → Consultation Q ε β) :
    (x >>= f).result = x.result >>= fun a => (f a).result := by
  obtain ⟨asked, _ | a⟩ := x <;> rfl

theorem result_bind {x : Consultation Q ε α} {a : α} (h : x.result = .ok a)
    (f : α → Consultation Q ε β) : (x >>= f).result = (f a).result := by
  rw [bind_eq, andThen, h]

/-- Two computations one after the other succeed only if both do. -/
theorem exists_of_result_bind {x : Consultation Q ε α} {f : α → Consultation Q ε β} {b : β}
    (h : (x >>= f).result = .ok b) : ∃ a, x.result = .ok a ∧ (f a).result = .ok b := by
  rw [bind_eq, andThen] at h
  split at h
  · exact nomatch h
  · next a ha => exact ⟨a, ha, h⟩

theorem id_map_eq (x : Consultation Q ε α) : id <$> x = x := by
  obtain ⟨asked, _ | a⟩ := x
  · rfl
  · show (⟨asked ++ [], .ok a⟩ : Consultation Q ε α) = _
    simp

theorem pure_bind_eq (a : α) (f : α → Consultation Q ε β) : pure a >>= f = f a := by
  show (⟨[] ++ (f a).asked, (f a).result⟩ : Consultation Q ε β) = f a
  simp

theorem bind_assoc_eq (x : Consultation Q ε α) (f : α → Consultation Q ε β)
    (g : β → Consultation Q ε γ) : x >>= f >>= g = x >>= fun a => f a >>= g := by
  obtain ⟨asked, _ | a⟩ := x
  · rfl
  · show andThen ⟨asked ++ (f a).asked, (f a).result⟩ g =
      ⟨asked ++ (andThen (f a) g).asked, (andThen (f a) g).result⟩
    unfold andThen
    cases (f a).result <;> simp

instance : LawfulMonad (Consultation Q ε) :=
  LawfulMonad.mk' _ id_map_eq pure_bind_eq bind_assoc_eq

end Consultation

end Worksheet
