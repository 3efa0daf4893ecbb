import ConfigEditor.Procedure
set_option autoImplicit false

/-!
# Procedures: what they do when they are performed

A procedure is performed step by step (`perform_bind`), and each basic step has one equation.

A fault takes nothing back, so that a procedure that fails leaves the state as it was
(`KeepsOnFault`) has to be seen from its steps: first come steps that only look (`LooksOnly`), and
behind the first change no step can fail (`Succeeds`).
-/

namespace ConfigEditor.Procedure

variable {σ α β : Type}

/-! ## Steps -/

theorem perform_bind (procedure : Procedure σ α) (next : α → Procedure σ β) (state : σ) :
    (procedure >>= next).perform state =
      match procedure.perform state with
      | (.ok value, after) => (next value).perform after
      | (.error fault, after) => (.error fault, after) := by
  unfold perform ExceptT.run StateT.run
  simp only [bind, ExceptT.bind, ExceptT.mk, StateT.bind, ExceptT.bindCont]
  cases procedure state with
  | mk result after => cases result <;> rfl

theorem perform_pure (value : α) (state : σ) :
    (pure value : Procedure σ α).perform state = (.ok value, state) := rfl

theorem perform_get (state : σ) : (get : Procedure σ σ).perform state = (.ok state, state) := rfl

theorem perform_modify (change : σ → σ) (state : σ) :
    (modify change : Procedure σ PUnit).perform state = (.ok (), change state) := rfl

theorem perform_ofResult (result : Except Fault α) (state : σ) :
    (ofResult result).perform state = (result, state) := by
  cases result <;> rfl

theorem perform_ofRefusal (result : Except Refusal α) (state : σ) :
    (ofRefusal result).perform state = (result.mapError .refused, state) := by
  cases result <;> rfl

theorem perform_ask (question : σ → Except Fault α) (state : σ) :
    (ask question).perform state = (question state, state) := by
  unfold ask
  rw [perform_bind, perform_get]
  exact perform_ofResult (question state) state

theorem perform_eq_of_fst {procedure : Procedure σ α} {state : σ} {result : Except Fault α}
    (h : (procedure.perform state).1 = result) :
    procedure.perform state = (result, (procedure.perform state).2) := by
  rw [← h]

/-- A procedure that succeeds does so step by step. -/
theorem exists_of_perform_bind {procedure : Procedure σ α} {next : α → Procedure σ β}
    {state after : σ} {result : β}
    (h : (procedure >>= next).perform state = (.ok result, after)) :
    ∃ value between, procedure.perform state = (.ok value, between) ∧
      (next value).perform between = (.ok result, after) := by
  rw [perform_bind] at h
  split at h
  · rename_i value between hstep
    exact ⟨value, between, hstep, h⟩
  · cases h

theorem result_eq_ok_iff {procedure : Procedure σ α} {state after : σ} {value : α} :
    procedure.result state = .ok (value, after) ↔
      procedure.perform state = (.ok value, after) := by
  unfold result
  rcases procedure.perform state with ⟨fault | found, left⟩ <;> simp

/-- A procedure that has nothing to tell succeeds with the state after it. -/
theorem map_snd_result_eq_ok_iff {procedure : Procedure σ Unit} {state after : σ} :
    (procedure.result state).map Prod.snd = .ok after ↔
      procedure.perform state = (.ok (), after) := by
  rw [← result_eq_ok_iff]
  cases procedure.result state with
  | error fault => simp [Except.map]
  | ok made => simp [Except.map, Prod.ext_iff]

theorem result_eq_error_iff {procedure : Procedure σ α} {state : σ} {fault : Fault} :
    procedure.result state = .error fault ↔ (procedure.perform state).1 = .error fault := by
  unfold result
  rcases procedure.perform state with ⟨other | found, left⟩ <;> simp

/-- A result that is only told in another way. -/
theorem result_bind_pure (procedure : Procedure σ α) (tell : α → β) (state : σ) :
    (do let value ← procedure; pure (tell value)).result state =
      (procedure.result state).map fun made => (tell made.1, made.2) := by
  unfold result
  rw [perform_bind]
  rcases procedure.perform state with ⟨fault | value, after⟩ <;> rfl

/-! ## What a fault leaves -/

/-- Whatever comes of the procedure, the state stays. -/
def LooksOnly (procedure : Procedure σ α) : Prop :=
  ∀ state, (procedure.perform state).2 = state

/-- The procedure cannot fail. -/
def Succeeds (procedure : Procedure σ α) : Prop :=
  ∀ state, ∃ value after, procedure.perform state = (.ok value, after)

/-- If the procedure fails, the state stays. -/
def KeepsOnFault (procedure : Procedure σ α) : Prop :=
  ∀ state fault after, procedure.perform state = (.error fault, after) → after = state

theorem looksOnly_get : (get : Procedure σ σ).LooksOnly := fun _ => rfl

theorem looksOnly_ofResult (result : Except Fault α) :
    (ofResult result : Procedure σ α).LooksOnly := by
  intro state
  rw [perform_ofResult]

theorem looksOnly_ofRefusal (result : Except Refusal α) :
    (ofRefusal result : Procedure σ α).LooksOnly := by
  intro state
  rw [perform_ofRefusal]

theorem looksOnly_ask (question : σ → Except Fault α) : (ask question).LooksOnly := by
  intro state
  rw [perform_ask]

theorem succeeds_pure (value : α) : (pure value : Procedure σ α).Succeeds :=
  fun state => ⟨value, state, rfl⟩

theorem succeeds_get : (get : Procedure σ σ).Succeeds := fun state => ⟨state, state, rfl⟩

theorem succeeds_modify (change : σ → σ) : (modify change : Procedure σ PUnit).Succeeds :=
  fun state => ⟨(), change state, rfl⟩

theorem Succeeds.bind {procedure : Procedure σ α} {next : α → Procedure σ β}
    (h : procedure.Succeeds) (hnext : ∀ value, (next value).Succeeds) :
    (procedure >>= next).Succeeds := by
  intro state
  obtain ⟨value, between, hstep⟩ := h state
  obtain ⟨result, after, hrest⟩ := hnext value between
  exact ⟨result, after, by rw [perform_bind, hstep]; exact hrest⟩

theorem Succeeds.keepsOnFault {procedure : Procedure σ α} (h : procedure.Succeeds) :
    procedure.KeepsOnFault := by
  intro state fault after hfault
  obtain ⟨value, between, hstep⟩ := h state
  rw [hstep] at hfault
  cases hfault

/-- Looking first does no harm. -/
theorem LooksOnly.bind_keepsOnFault {procedure : Procedure σ α} {next : α → Procedure σ β}
    (h : procedure.LooksOnly) (hnext : ∀ value, (next value).KeepsOnFault) :
    (procedure >>= next).KeepsOnFault := by
  intro state fault after hfault
  have hsame := h state
  rw [perform_bind] at hfault
  split at hfault
  · rename_i value between hstep
    rw [hstep] at hsame
    subst hsame
    exact hnext value _ fault after hfault
  · rename_i other between hstep
    rw [hstep] at hsame
    exact (Prod.mk.inj hfault).2.symm.trans hsame

/-- Nor do steps that cannot fail, behind all the others. -/
theorem KeepsOnFault.bind {procedure : Procedure σ α} {next : α → Procedure σ β}
    (h : procedure.KeepsOnFault) (hnext : ∀ value, (next value).Succeeds) :
    (procedure >>= next).KeepsOnFault := by
  intro state fault after hfault
  rw [perform_bind] at hfault
  split at hfault
  · rename_i value between hstep
    obtain ⟨result, last, hrest⟩ := hnext value between
    rw [hrest] at hfault
    cases hfault
  · rename_i other between hstep
    obtain ⟨hsame, rfl⟩ := Prod.mk.inj hfault
    exact h state other _ hstep

end ConfigEditor.Procedure
