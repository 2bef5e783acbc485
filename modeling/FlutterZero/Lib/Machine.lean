import Mathlib

/-! # Runs of a step function that answers or faults

A component is given by a function `step` that takes a state and an operation
and either answers with an output and a new state, or faults.  A *run* is a
finite sequence of operations none of which faulted, recorded together with the
outputs.

* `Runs step guard s₀ log s` — the operations of `log`, each met by `guard` in
  the state it was issued in, lead from `s₀` to `s`;
* `run` — the executable presentation, for a fixed list of operations;
* `Runs.preserves` — an invariant kept by every guarded step holds after every
  run.
-/

namespace FlutterZero.Lib

/-! ## Fallible computations -/

section Fallible

variable {ε α β : Type}

@[simp] theorem ok_bind (a : α) (f : α → Except ε β) : (Except.ok a >>= f) = f a := rfl

@[simp] theorem error_bind (e : ε) (f : α → Except ε β) :
    ((Except.error e : Except ε α) >>= f) = .error e := rfl

@[simp] theorem pure_eq_ok (a : α) : (pure a : Except ε α) = .ok a := rfl

theorem bind_eq_ok {x : Except ε α} {f : α → Except ε β} {b : β} :
    (x >>= f) = .ok b ↔ ∃ a, x = .ok a ∧ f a = .ok b := by
  cases x with
  | error e => simp
  | ok a => simp

theorem exists_ok_of_isOk {α ε : Type*} {x : Except ε α} (returned : x.isOk = true) : ∃ a, x = .ok a := by
  cases x with
  | error e => cases returned
  | ok a => exact ⟨a, rfl⟩

theorem foldlM_preserves {σ : Type} {step : σ → α → Except ε σ} {P : List α → σ → Prop} {whole : List α}
    (kept : ∀ done a s s', done ++ [a] <+: whole → P done s → step s a = .ok s' → P (done ++ [a]) s')
    {s s' : σ} (init : P [] s) (folded : whole.foldlM step s = .ok s') : P whole s' := by
  suffices general : ∀ done rest s, done ++ rest = whole → P done s → rest.foldlM step s = .ok s' →
      P whole s' from general [] whole s rfl init folded
  clear init folded s
  intro done rest s split init folded
  induction rest generalizing done s with
  | nil =>
    rw [List.foldlM_nil, pure_eq_ok, Except.ok.injEq] at folded
    rwa [← split, List.append_nil, ← folded]
  | cons a rest ih =>
    rw [List.foldlM_cons] at folded
    obtain ⟨s₁, stepped, folded⟩ := bind_eq_ok.mp folded
    have split' : done ++ [a] ++ rest = whole := by rw [List.append_assoc]; exact split
    exact ih (done ++ [a]) s₁ split' (kept done a s s₁ ⟨rest, split'⟩ init stepped) folded

theorem foldlM_flatten {σ : Type} (step : σ → α → Except ε σ) (xss : List (List α)) (s : σ) :
    xss.flatten.foldlM step s = xss.foldlM (fun s xs => xs.foldlM step s) s := by
  induction xss generalizing s with
  | nil => rfl
  | cons xs xss ih =>
    rw [List.flatten_cons, List.foldlM_append, List.foldlM_cons]
    exact congrArg _ (funext ih)

theorem modify_length_append (f : α → α) (before : List α) (last : α) :
    (before ++ [last]).modify before.length f = before ++ [f last] := by
  induction before with
  | nil => rfl
  | cons first before ih => exact congrArg (first :: ·) ih

end Fallible

/-! ## Runs -/

variable {σ ι ο ε : Type*}

/-- The operations of `log` lead from `s₀` to `s`, answered as `log` records. -/
inductive Runs (step : σ → ι → Except ε (ο × σ)) (guard : σ → ι → Prop) (s₀ : σ) :
    List (ι × ο) → σ → Prop where
  | start : Runs step guard s₀ [] s₀
  | next {log : List (ι × ο)} {s s' : σ} {op : ι} {out : ο}
      (before : Runs step guard s₀ log s) (met : guard s op) (stepped : step s op = .ok (out, s')) :
      Runs step guard s₀ (log ++ [(op, out)]) s'

variable {step : σ → ι → Except ε (ο × σ)} {guard guard' : σ → ι → Prop} {s₀ s : σ}
  {log : List (ι × ο)}

/-- An invariant that holds at the start and is kept by every guarded step holds
    at the end of every run. -/
theorem Runs.preserves {P : σ → Prop} (runs : Runs step guard s₀ log s) (init : P s₀)
    (kept : ∀ s op out s', P s → guard s op → step s op = .ok (out, s') → P s') : P s := by
  induction runs with
  | start => exact init
  | next _ met stepped ih => exact kept _ _ _ _ ih met stepped

theorem Runs.mono (runs : Runs step guard s₀ log s) (weaker : ∀ s op, guard s op → guard' s op) :
    Runs step guard' s₀ log s := by
  induction runs with
  | start => exact .start
  | next _ met stepped ih => exact .next ih (weaker _ _ met) stepped

theorem Runs.last {s' : σ} {op : ι} {out : ο} (runs : Runs step guard s₀ (log ++ [(op, out)]) s') :
    ∃ s, Runs step guard s₀ log s ∧ guard s op ∧ step s op = .ok (out, s') := by
  generalize whole : log ++ [(op, out)] = longer at runs
  cases runs with
  | start => simp at whole
  | next before met stepped =>
    obtain ⟨rfl, last⟩ := List.append_inj' whole rfl
    cases last
    exact ⟨_, before, met, stepped⟩

theorem Runs.unique {s' : σ} (runs : Runs step guard s₀ log s) (other : Runs step guard' s₀ log s') : s = s' := by
  induction runs generalizing s' with
  | start =>
    generalize empty : ([] : List (ι × ο)) = log at other
    cases other with
    | start => rfl
    | next => simp at empty
  | next before _ stepped ih =>
    obtain ⟨_, otherBefore, _, otherStepped⟩ := other.last
    obtain rfl := ih otherBefore
    cases stepped.symm.trans otherStepped
    rfl

theorem Runs.of_prefix {before : List (ι × ο)} (runs : Runs step guard s₀ log s) (inLog : before <+: log) :
    ∃ s', Runs step guard s₀ before s' := by
  induction runs with
  | start => exact ⟨s₀, List.prefix_nil.mp inLog ▸ .start⟩
  | next earlier met stepped ih =>
    rcases List.prefix_concat_iff.mp inLog with rfl | inLog
    · exact ⟨_, .next earlier met stepped⟩
    · exact ih inLog

theorem Runs.cons {s₁ : σ} {op : ι} {out : ο} (met : guard s₀ op)
    (stepped : step s₀ op = .ok (out, s₁)) (runs : Runs step guard s₁ log s) :
    Runs step guard s₀ ((op, out) :: log) s := by
  induction runs with
  | start => exact .next .start met stepped
  | next _ met stepped ih => exact .next ih met stepped

/-- Performs the operations one after another; the first fault ends the run. -/
def run (step : σ → ι → Except ε (ο × σ)) : σ → List ι → Except ε (List (ι × ο) × σ)
  | s, [] => .ok ([], s)
  | s, op :: ops =>
    match step s op with
    | .error fault => .error fault
    | .ok (out, s') =>
      match run step s' ops with
      | .error fault => .error fault
      | .ok (log, s'') => .ok ((op, out) :: log, s'')

theorem runs_of_run {ops : List ι} (met : ∀ s, ∀ op ∈ ops, guard s op)
    (ran : run step s₀ ops = .ok (log, s)) : Runs step guard s₀ log s := by
  induction ops generalizing s₀ log with
  | nil =>
    simp only [run, Except.ok.injEq, Prod.mk.injEq] at ran
    obtain ⟨rfl, rfl⟩ := ran
    exact .start
  | cons op ops ih =>
    simp only [run] at ran
    cases stepped : step s₀ op with
    | error fault => simp [stepped] at ran
    | ok answer =>
      obtain ⟨out, s₁⟩ := answer
      simp only [stepped] at ran
      cases rest : run step s₁ ops with
      | error fault => simp [rest] at ran
      | ok done =>
        obtain ⟨log', s'⟩ := done
        simp only [rest, Except.ok.injEq, Prod.mk.injEq] at ran
        obtain ⟨rfl, rfl⟩ := ran
        exact .cons (met s₀ op (by simp)) stepped
          (ih (fun s op member => met s op (List.mem_cons_of_mem _ member)) rest)

/-- `step`, refused where `check` does not hold. -/
def guarded (step : σ → ι → Except ε (ο × σ)) (fault : ε) (check : σ → ι → Bool) (s : σ) (op : ι) :
    Except ε (ο × σ) :=
  if check s op then step s op else .error fault

theorem runs_of_run_guarded {fault : ε} {check : σ → ι → Bool} {ops : List ι}
    (sound : ∀ s op, check s op = true → guard s op)
    (ran : run (guarded step fault check) s₀ ops = .ok (log, s)) : Runs step guard s₀ log s := by
  have runs : Runs (guarded step fault check) (fun _ _ => True) s₀ log s :=
    runs_of_run (fun _ _ _ => trivial) ran
  clear ran
  induction runs with
  | start => exact .start
  | next _ _ stepped ih =>
    unfold guarded at stepped
    split at stepped
    · rename_i met
      exact .next ih (sound _ _ met) stepped
    · cases stepped

end FlutterZero.Lib
