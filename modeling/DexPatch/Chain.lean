namespace DexPatch

/-!
# Chains of computations that can fail

A chain ends at the first link that fails.  So it succeeds exactly if each
link does, and what holds of a result is shown link by link.
-/

/-- A chain of two computations succeeds exactly if both do. -/
theorem bind_eq_ok_iff
    {ε α β : Type}
    {first : Except ε α}
    {next : α → Except ε β}
    {result : β} :
    (first >>= next) = .ok result ↔
      ∃ x, first = .ok x ∧ next x = .ok result := by
  cases first with
  | error error =>
      simp [bind, Except.bind]
  | ok x =>
      simp [bind, Except.bind]

/-- The first link of a chain passes its result on. -/
theorem bind_of_ok
    {ε α β : Type}
    {first : Except ε α}
    {next : α → Except ε β}
    {x : α}
    (succeeds : first = .ok x) :
    (first >>= next) = next x := by
  rw [succeeds]
  rfl

/-- What follows both branches of a choice follows the choice. -/
theorem ite_bind
    {ε α β : Type}
    {p : Prop}
    [Decidable p]
    {first second : Except ε α}
    {next : α → Except ε β} :
    (if p then first >>= next else second >>= next) =
      (if p then first else second) >>= next := by
  split <;> rfl

/-- A changed result comes from a result. -/
theorem map_eq_ok_iff
    {ε α β : Type}
    {first : Except ε α}
    {change : α → β}
    {result : β} :
    change <$> first = .ok result ↔
      ∃ x, first = .ok x ∧ change x = result := by
  cases first with
  | error error =>
      simp [Functor.map, Except.map]
  | ok x =>
      simp [Functor.map, Except.map]

theorem mapError_ok
    {ε δ α : Type}
    (change : ε → δ)
    (x : α) :
    (Except.ok x).mapError change = .ok x := rfl

theorem mapError_error
    {ε δ α : Type}
    (change : ε → δ)
    (reason : ε) :
    (.error reason : Except ε α).mapError change = .error (change reason) := rfl

/-- An error that is told in other words is an error all the same. -/
theorem mapError_eq_ok_iff
    {ε δ α : Type}
    {first : Except ε α}
    {change : ε → δ}
    {result : α} :
    first.mapError change = .ok result ↔ first = .ok result := by
  cases first <;> simp [mapError_ok, mapError_error]

/-- A chain in which errors are told in other words. -/
theorem mapError_bind
    {ε δ α β : Type}
    (first : Except ε α)
    (next : α → Except ε β)
    (change : ε → δ) :
    (first >>= next).mapError change =
      first.mapError change >>= fun x => (next x).mapError change := by
  cases first <;> rfl

/-- Of two steps without results both must succeed. -/
theorem then_eq_ok_iff
    {ε α : Type}
    {first : Except ε Unit}
    {next : Except ε α}
    {result : α} :
    (first >>= fun _ => next) = .ok result ↔ first = .ok () ∧ next = .ok result := by
  rw [bind_eq_ok_iff]
  constructor
  · rintro ⟨_, succeeds, followed⟩
    exact ⟨succeeds, followed⟩
  · rintro ⟨succeeds, followed⟩
    exact ⟨(), succeeds, followed⟩

theorem forM_singleton
    {ε α : Type}
    (check : α → Except ε Unit)
    (x : α) :
    [x].forM check = check x := by
  rw [List.forM, List.forM]
  cases check x <;> rfl

/-- The elements of two lists are checked one list after the other. -/
theorem forM_append
    {ε α : Type}
    (check : α → Except ε Unit)
    (first second : List α) :
    (first ++ second).forM check = first.forM check >>= fun _ => second.forM check := by
  induction first with
  | nil =>
      rfl
  | cons x rest inductionHypothesis =>
      rw [List.cons_append, List.forM, inductionHypothesis, List.forM, bind_assoc]

/-- A check of a list succeeds exactly if that of each element does. -/
theorem forM_eq_ok_iff
    {ε α : Type}
    {check : α → Except ε Unit}
    {list : List α} :
    list.forM check = .ok () ↔ ∀ x ∈ list, check x = .ok () := by
  induction list with
  | nil =>
      simp [pure, Except.pure]
  | cons x rest inductionHypothesis =>
      change (check x >>= fun _ => rest.forM check) = .ok () ↔ _
      rw [then_eq_ok_iff, inductionHypothesis, List.forall_mem_cons]

/-- A check of a list fails as that of an element does. -/
theorem exists_of_forM_eq_error
    {ε α : Type}
    {check : α → Except ε Unit}
    {list : List α}
    {reason : ε}
    (fails : list.forM check = .error reason) :
    ∃ x ∈ list, check x = .error reason := by
  induction list with
  | nil =>
      cases fails
  | cons x rest inductionHypothesis =>
      cases checked : check x with
      | error other =>
          rw [List.forM, checked] at fails
          cases fails
          exact ⟨x, List.mem_cons_self, checked⟩
      | ok _ =>
          rw [List.forM, bind_of_ok checked] at fails
          obtain ⟨y, member, isReason⟩ := inductionHypothesis fails
          exact ⟨y, List.mem_cons_of_mem x member, isReason⟩

/-! ## Chains that hold something -/

section Held

variable {ε σ α β : Type}

/-- A link that fails ends the chain and leaves what is held as it is. -/
theorem run_ofExcept_bind
    (link : Except ε α)
    (next : α → ExceptT ε (StateM σ) β)
    (held : σ) :
    (MonadExcept.ofExcept link >>= next).run.run held =
      match link with
      | .ok x => (next x).run.run held
      | .error reason => (.error reason, held) := by
  cases link <;> rfl

/-- A link may look at what is held. -/
theorem run_get_bind
    (next : σ → ExceptT ε (StateM σ) β)
    (held : σ) :
    (get >>= next).run.run held = (next held).run.run held := rfl

end Held

end DexPatch
