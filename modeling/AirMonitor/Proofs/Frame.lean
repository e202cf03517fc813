import AirMonitor.Sensor.Link
import AirMonitor.Log
import Mathlib.Order.Defs.Unbundled

namespace AirMonitor

variable {σ α β : Type}

@[simp] theorem bind_run (first : StateM σ α) (next : α → StateM σ β) (s : σ) :
    (first >>= next) s = next (first s).1 (first s).2 := rfl

@[simp] theorem pure_run (a : α) (s : σ) : (pure a : StateM σ α) s = (a, s) := rfl

@[simp] theorem get_run (s : σ) : (get : StateM σ σ) s = (s, s) := rfl

@[simp] theorem modify_run (f : σ → σ) (s : σ) : (modify f : StateM σ PUnit) s = (⟨⟩, f s) := rfl

/-- Wherever the action starts, it ends in a state that is related to that one. -/
def Within (R : σ → σ → Prop) (action : StateM σ α) : Prop :=
  ∀ s, R s (action s).2

/-- The second state shows what the first one shows. -/
def Same (view : σ → β) (s t : σ) : Prop := view t = view s

instance (view : σ → β) : IsPreorder σ (Same view) where
  refl _ := rfl
  trans _ _ _ h h' := h'.trans h

section

variable {R : σ → σ → Prop} [IsPreorder σ R]

protected theorem Within.pure (a : α) : Within R (Pure.pure a : StateM σ α) :=
  fun s => Std.Refl.refl s

protected theorem Within.get : Within R (MonadState.get : StateM σ σ) := fun s => Std.Refl.refl s

protected theorem Within.bind {first : StateM σ α} {next : α → StateM σ β}
    (hfirst : Within R first) (hnext : ∀ a, Within R (next a)) : Within R (first >>= next) := by
  intro s
  exact IsTrans.trans _ _ _ (hfirst s) (hnext _ _)

end

end AirMonitor
