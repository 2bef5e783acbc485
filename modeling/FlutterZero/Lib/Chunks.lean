import FlutterZero.Lib.Machine

/-! # Reading a stream in chunks

A reader takes the items of a stream one after another.  A step either goes on or throws, and
leaves a state behind in both cases; when it throws, the items that are left of the chunk are lost,
and the next chunk is read from the state that was left.

* `readChunk`, `readChunks` — one chunk, and one chunk after another;
* `readChunks_of_ok` — without a throw it makes no difference how the stream is cut;
* `readChunks_append_of_ok` — nor what was read before;
* `readChunks_of_throw` — after a throw the rest is read without what was left of the chunk;
* `readChunks_lose` — and every start of the rest can be lost in this way.
-/

namespace FlutterZero.Lib

variable {σ β : Type} (step : σ → β → Except σ σ)

/-- An error is the state that a throw leaves behind. -/
def readChunk (s : σ) : List β → σ
  | [] => s
  | b :: rest =>
    match step s b with
    | .ok s' => readChunk s' rest
    | .error left => left

def readChunks (s : σ) (chunks : List (List β)) : σ := chunks.foldl (readChunk step) s

variable {step} {s s' left : σ} {b : β} {good rest : List β} {chunks : List (List β)}

@[simp] theorem readChunk_nil : readChunk step s [] = s := rfl

@[simp] theorem readChunks_nil : readChunks step s [] = s := rfl

@[simp] theorem readChunks_cons (chunk : List β) :
    readChunks step s (chunk :: chunks) = readChunks step (readChunk step s chunk) chunks := rfl

theorem readChunk_cons_of_ok (stepped : step s b = .ok s') : readChunk step s (b :: rest) = readChunk step s' rest := by
  rw [readChunk, stepped]

theorem readChunk_cons_of_throw (thrown : step s b = .error left) : readChunk step s (b :: rest) = left := by
  rw [readChunk, thrown]

theorem readChunk_append_of_ok (read : good.foldlM step s = .ok s') (rest : List β) :
    readChunk step s (good ++ rest) = readChunk step s' rest := by
  induction good generalizing s with
  | nil => cases read; rfl
  | cons b good ih =>
    rw [List.foldlM_cons] at read
    obtain ⟨s₁, stepped, read⟩ := bind_eq_ok.mp read
    rw [List.cons_append, readChunk_cons_of_ok stepped]
    exact ih read

theorem readChunk_of_ok (read : good.foldlM step s = .ok s') : readChunk step s good = s' := by
  simpa using readChunk_append_of_ok read []

theorem read_cases (step : σ → β → Except σ σ) (s : σ) (items : List β) :
    (∃ s', items.foldlM step s = .ok s') ∨
      ∃ good b rest s' left, items = good ++ b :: rest ∧ good.foldlM step s = .ok s' ∧ step s' b = .error left := by
  induction items generalizing s with
  | nil => exact .inl ⟨s, rfl⟩
  | cons b items ih =>
    cases stepped : step s b with
    | error left => exact .inr ⟨[], b, items, s, left, rfl, rfl, stepped⟩
    | ok s₁ =>
      obtain ⟨s', read⟩ | ⟨good, b', rest, s', left, rfl, read, thrown⟩ := ih s₁
      · exact .inl ⟨s', by rw [List.foldlM_cons, stepped]; exact read⟩
      · exact .inr ⟨b :: good, b', rest, s', left, rfl, by rw [List.foldlM_cons, stepped]; exact read, thrown⟩

theorem readChunks_of_ok (read : chunks.flatten.foldlM step s = .ok s') : readChunks step s chunks = s' := by
  induction chunks generalizing s with
  | nil => cases read; rfl
  | cons chunk chunks ih =>
    rw [List.flatten_cons, List.foldlM_append] at read
    obtain ⟨s₁, first, read⟩ := bind_eq_ok.mp read
    rw [readChunks_cons, readChunk_of_ok first]
    exact ih read

theorem readChunks_of_flatten_nil (empty : chunks.flatten = []) : readChunks step s chunks = s :=
  readChunks_of_ok (by rw [empty]; rfl)

/-- What was read without a throw may end inside a chunk. -/
theorem readChunks_append_of_ok (cut : chunks.flatten = good ++ rest) (read : good.foldlM step s = .ok s') :
    ∃ later, later.flatten = rest ∧ readChunks step s chunks = readChunks step s' later := by
  induction chunks generalizing s good with
  | nil =>
    obtain ⟨rfl, rfl⟩ := List.append_eq_nil_iff.mp cut.symm
    cases read
    exact ⟨[], rfl, rfl⟩
  | cons chunk chunks ih =>
    rw [List.flatten_cons] at cut
    obtain ⟨more, split, rest_eq⟩ | ⟨more, split, rest_eq⟩ := List.append_eq_append_iff.mp cut
    · rw [split, List.foldlM_append] at read
      obtain ⟨s₁, first, read⟩ := bind_eq_ok.mp read
      rw [readChunks_cons, readChunk_of_ok first]
      exact ih rest_eq read
    · refine ⟨more :: chunks, rest_eq.symm, ?_⟩
      rw [readChunks_cons, readChunks_cons, split, readChunk_append_of_ok read]

/-- Only the first item that is read tells apart two states in which every step is the same. -/
theorem readChunks_congr (same : ∀ b, step s b = step s' b) (nonempty : chunks.flatten ≠ []) :
    readChunks step s chunks = readChunks step s' chunks := by
  induction chunks with
  | nil => exact absurd rfl nonempty
  | cons chunk chunks ih =>
    cases chunk with
    | nil => exact ih nonempty
    | cons b chunk => rw [readChunks_cons, readChunks_cons, readChunk, readChunk, same b]

theorem readChunks_of_throw (cut : chunks.flatten = good ++ b :: rest) (read : good.foldlM step s = .ok s')
    (thrown : step s' b = .error left) :
    ∃ lost later, rest = lost ++ later.flatten ∧ readChunks step s chunks = readChunks step left later := by
  obtain ⟨chunks', cut', same⟩ := readChunks_append_of_ok cut read
  rw [same]
  clear cut same read
  induction chunks' with
  | nil => simp at cut'
  | cons chunk chunks' ih =>
    cases chunk with
    | nil => exact ih cut'
    | cons b' lost =>
      obtain ⟨rfl, rest_eq⟩ := List.cons.inj cut'
      refine ⟨lost, chunks', rest_eq.symm, ?_⟩
      rw [readChunks_cons, readChunk_cons_of_throw thrown]

theorem readChunks_lose (read : good.foldlM step s = .ok s') (thrown : step s' b = .error left) (lost : List β)
    (later : List (List β)) :
    readChunks step s ((good ++ b :: lost) :: later) = readChunks step left later := by
  rw [readChunks_cons, readChunk_append_of_ok read, readChunk_cons_of_throw thrown]

theorem readChunk_preserves {P : σ → Prop} (next : ∀ s b s', P s → step s b = .ok s' → P s')
    (throw : ∀ s b left, P s → step s b = .error left → P left) (items : List β) (start : P s) :
    P (readChunk step s items) := by
  induction items generalizing s with
  | nil => exact start
  | cons b items ih =>
    rw [readChunk]
    split
    · rename_i s₁ stepped
      exact ih (next s b s₁ start stepped)
    · rename_i left thrown
      exact throw s b left start thrown

theorem readChunks_preserves {P : σ → Prop} (next : ∀ s b s', P s → step s b = .ok s' → P s')
    (throw : ∀ s b left, P s → step s b = .error left → P left) (chunks : List (List β)) (start : P s) :
    P (readChunks step s chunks) := by
  induction chunks generalizing s with
  | nil => exact start
  | cons chunk chunks ih => exact ih (readChunk_preserves next throw chunk start)

end FlutterZero.Lib
