import Mathlib.Data.Nat.Basic

/-!
# Loops

A loop is its body: from the loop state, either the state of the next
iteration (`.inl`) or the value with which the loop is left (`.inr`). `run`
executes a bounded number of iterations; `Returns body s b` says that the loop
started in `s` is left with `b` after some number of them, so statements about
loops carry no bound.

* `returns_inl`, `returns_inr`: unfolding one iteration.
* `Returns.unique`: a loop returns at most one value.
* `Returns.rule`: an invariant of the body holds when the loop is left.
* `not_returns`: an invariant that lets every iteration be followed by another.
-/
namespace DictationClient.Loop

variable {σ β : Type} (body : σ → σ ⊕ β)

/-- At most `n` evaluations of the body; `none`: not left by then. -/
def run : Nat → σ → Option β
  | 0, _ => none
  | n + 1, s =>
    match body s with
    | .inl s' => run n s'
    | .inr b => some b

def Returns (s : σ) (b : β) : Prop := ∃ n, run body n s = some b

variable {body}

theorem returns_inl {s s' : σ} (h : body s = .inl s') (b : β) :
    Returns body s b ↔ Returns body s' b := by
  constructor
  · rintro ⟨n, hn⟩
    cases n with
    | zero => simp [run] at hn
    | succ n => exact ⟨n, by simpa [run, h] using hn⟩
  · rintro ⟨n, hn⟩
    exact ⟨n + 1, by simpa [run, h] using hn⟩

theorem returns_inr {s : σ} {b : β} (h : body s = .inr b) (b' : β) :
    Returns body s b' ↔ b' = b := by
  constructor
  · rintro ⟨n, hn⟩
    cases n with
    | zero => simp [run] at hn
    | succ n => simp only [run, h, Option.some.injEq] at hn; exact hn.symm
  · rintro rfl
    exact ⟨1, by simp [run, h]⟩

theorem Returns.unique {s : σ} {b b' : β} (h : Returns body s b) (h' : Returns body s b') :
    b = b' := by
  obtain ⟨n, hn⟩ := h
  induction n generalizing s with
  | zero => simp [run] at hn
  | succ n ih =>
    cases hs : body s with
    | inl s' => exact ih ((returns_inl hs b').mp h') (by simpa [run, hs] using hn)
    | inr c =>
      simp only [run, hs, Option.some.injEq] at hn
      rw [← hn, (returns_inr hs b').mp h']

/-- **Partial correctness.** `I` is kept by every iteration and gives `Q` where
the loop is left. -/
theorem Returns.rule (I : σ → Prop) (Q : β → Prop)
    (hstep : ∀ s s', I s → body s = .inl s' → I s') (hexit : ∀ s b, I s → body s = .inr b → Q b)
    {s : σ} {b : β} (h0 : I s) (h : Returns body s b) : Q b := by
  obtain ⟨n, hn⟩ := h
  induction n generalizing s with
  | zero => simp [run] at hn
  | succ n ih =>
    cases hs : body s with
    | inl s' => exact ih (hstep s s' h0 hs) (by simpa [run, hs] using hn)
    | inr c =>
      simp only [run, hs, Option.some.injEq] at hn
      exact hn ▸ hexit s c h0 hs

/-- **Divergence.** While `I` holds there is a next iteration, and it keeps `I`. -/
theorem not_returns (I : σ → Prop) (hgo : ∀ s, I s → ∃ s', body s = .inl s' ∧ I s') {s : σ}
    (h0 : I s) (b : β) : ¬ Returns body s b := by
  intro h
  refine h.rule I (fun _ => False) (fun s s' hs hb => ?_) (fun s b hs hb => ?_) h0
  · obtain ⟨t, ht, hI⟩ := hgo s hs
    rw [ht, Sum.inl.injEq] at hb
    exact hb ▸ hI
  · obtain ⟨t, ht, -⟩ := hgo s hs
    rw [ht] at hb
    cases hb

end DictationClient.Loop
