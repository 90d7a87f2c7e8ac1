import ActorFacade.Journal
import ActorFacade.Proofs.Except

/-! # Results of computations with records

A computation succeeds if and only if its parts do.  What holds before the first element of a loop
and is kept by each element holds behind the last one (`foldlM_invariant`), and what holds of the
failures of each element holds of those of the loop (`failsOnly_foldlM`).
-/

namespace ActorFacade.Logged

variable {ε δ α β : Type}

theorem result_mapError_eq_ok_iff {x : Logged ε α} {f : ε → δ} {a : α} :
    (x.mapError f).result = .ok a ↔ x.result = .ok a := mapError_eq_ok_iff

/-- A loop over a first element and others succeeds if and only if both of its stages do. -/
theorem result_foldlM_cons_eq_ok_iff {f : β → α → Logged ε β} {x : α} {xs : List α} {b c : β} :
    ((x :: xs).foldlM f b).result = .ok c ↔
      ∃ b', (f b x).result = .ok b' ∧ (xs.foldlM f b').result = .ok c := by
  rw [List.foldlM_cons, result_bind_eq_ok_iff]

/-- What a loop begins with and keeps is what it ends with; `done` are the elements that it has gone
through. -/
theorem foldlM_invariant {f : β → α → Logged ε β} {P : List α → β → Prop} {xs : List α} {b c : β}
    (h : (xs.foldlM f b).result = .ok c) (init : P [] b)
    (step : ∀ done x rest b b', xs = done ++ x :: rest → P done b → (f b x).result = .ok b' →
      P (done ++ [x]) b') : P xs c := by
  suffices ∀ done rest b, xs = done ++ rest → P done b → (rest.foldlM f b).result = .ok c → P xs c
    from this [] xs b rfl init h
  intro done rest
  induction rest generalizing done with
  | nil =>
    intro b hxs hb hc
    cases hc
    rwa [hxs, List.append_nil]
  | cons x rest ih =>
    intro b hxs hb hc
    obtain ⟨b', hx, hc⟩ := result_foldlM_cons_eq_ok_iff.1 hc
    exact ih (done ++ [x]) b' (by simp [hxs]) (step done x rest b b' hxs hb hx) hc

/-! ## Failures -/

theorem result_bind_eq_error_iff {x : Logged ε α} {f : α → Logged ε β} {e : ε} :
    (x >>= f).result = .error e ↔ x.result = .error e ∨
      ∃ a, x.result = .ok a ∧ (f a).result = .error e := by
  cases h : x.result with
  | ok a => simp [bind_of_ok h]
  | error e => simp [bind_of_error h]

/-- A loop fails if and only if it does at an element, and has gone through all before it. -/
theorem result_foldlM_eq_error_iff {f : β → α → Logged ε β} {xs : List α} {b : β} {e : ε} :
    (xs.foldlM f b).result = .error e ↔ ∃ before x after b', xs = before ++ x :: after ∧
      (before.foldlM f b).result = .ok b' ∧ (f b' x).result = .error e := by
  induction xs generalizing b with
  | nil =>
    constructor
    · nofun
    · rintro ⟨before, x, after, b', hxs, -⟩
      simp at hxs
  | cons y ys ih =>
    rw [List.foldlM_cons, result_bind_eq_error_iff]
    constructor
    · rintro (hy | ⟨c, hy, hys⟩)
      · exact ⟨[], y, ys, b, rfl, rfl, hy⟩
      · obtain ⟨before, x, after, b', rfl, hbefore, hx⟩ := ih.1 hys
        exact ⟨y :: before, x, after, b', rfl,
          result_foldlM_cons_eq_ok_iff.2 ⟨c, hy, hbefore⟩, hx⟩
    · rintro ⟨before, x, after, b', hxs, hbefore, hx⟩
      cases before with
      | nil =>
        obtain ⟨rfl, rfl⟩ := List.cons_eq_cons.1 hxs
        cases hbefore
        exact .inl hx
      | cons z before =>
        obtain ⟨rfl, rfl⟩ := List.cons_eq_cons.1 hxs
        obtain ⟨c, hy, hbefore⟩ := result_foldlM_cons_eq_ok_iff.1 hbefore
        exact .inr ⟨c, hy, ih.2 ⟨before, x, after, b', rfl, hbefore, hx⟩⟩

theorem failsOnly_bind {P : ε → Prop} {x : Logged ε α} {f : α → Logged ε β}
    (hx : FailsOnly P x.result) (hf : ∀ a, x.result = .ok a → FailsOnly P (f a).result) :
    FailsOnly P (x >>= f).result := by
  cases h : x.result with
  | ok a =>
    rw [bind_of_ok h]
    exact hf a h
  | error e =>
    rw [bind_of_error h]
    exact .error (hx e h)

/-- A loop fails with what one of its steps fails with. -/
theorem failsOnly_foldlM {P : ε → Prop} {f : β → α → Logged ε β} {xs : List α}
    (hf : ∀ x ∈ xs, ∀ b, FailsOnly P (f b x).result) (b : β) :
    FailsOnly P (xs.foldlM f b).result := by
  induction xs generalizing b with
  | nil => exact .ok b
  | cons x xs ih =>
    obtain ⟨hx, hxs⟩ := List.forall_mem_cons.1 hf
    rw [List.foldlM_cons]
    exact failsOnly_bind (hx b) fun b' _ ↦ ih hxs b'

end ActorFacade.Logged
