import Mathlib.Order.Defs.Unbundled
import ScrobbleRelay.Proofs.Ends

/-!
# Where tasks lead

`Leads t R` says that a task, begun in any world, leaves a world that is
related to it, whatever its ending.  Where the relation is a preorder, a task
of several steps keeps it if each step does, so that what a task can do to the
world is read off its text without following its endings.

`Attains t R S` adds what a task achieves where it is done: then even `S` holds
between the two worlds.  It is enough that one step achieves that, where `S` is
kept by `R` before and after.
-/

namespace ScrobbleRelay.Task

variable {ε δ σ τ α β : Type}

/-- However a task ends, the world that it leaves is related to the world it
was begun in. -/
def Leads (t : Task ε σ α) (R : σ → σ → Prop) : Prop :=
  ∀ w, R w (t.run w).world

namespace Leads

variable {R : σ → σ → Prop} {t : Task ε σ α} {next : α → Task ε σ β}

/-! ## Steps that change nothing -/

section Still

variable [Std.Refl R]

theorem pure (value : α) : (Pure.pure value : Task ε σ α).Leads R :=
  fun w => Std.Refl.refl w

theorem fail (error : ε) : (Task.fail error : Task ε σ α).Leads R :=
  fun w => Std.Refl.refl w

theorem crash : (Task.crash : Task ε σ α).Leads R :=
  fun w => Std.Refl.refl w

theorem world : (Task.world : Task ε σ σ).Leads R :=
  fun w => Std.Refl.refl w

theorem log (level : Log.Level) (origin : Log.Origin) (text : String) :
    (Task.log level origin text : Task ε σ Unit).Leads R :=
  fun w => Std.Refl.refl w

theorem ofExcept (result : Except ε α) :
    (Task.ofExcept result : Task ε σ α).Leads R := by
  cases result with
  | ok value => exact pure value
  | error error => exact fail error

theorem of_yields {value : σ → Option α} (h : ∀ w, t.Yields w (value w) w) :
    t.Leads R := by
  intro w
  have hends := h w
  cases hvalue : value w with
  | none =>
      rw [hvalue] at hends
      obtain ⟨error, -, hworld⟩ := hends
      rw [hworld]
      exact Std.Refl.refl w
  | some v =>
      rw [hvalue] at hends
      rw [hends.2]
      exact Std.Refl.refl w

end Still

/-! ## Tasks made of others -/

/-- A task of two parts leads where both of them do. -/
theorem bind [IsTrans σ R] (h : t.Leads R) (hnext : ∀ v, (next v).Leads R) :
    (t >>= next).Leads R := by
  intro w
  have hfirst : R w (t.run w).world := h w
  rw [run_bind]
  cases (t.run w).ending with
  | done v => exact IsTrans.trans _ _ _ hfirst (hnext v _)
  | failed error => exact hfirst
  | crashed => exact hfirst

theorem mapError (f : ε → δ) (h : t.Leads R) : (t.mapError f).Leads R := h

theorem caught (h : t.Leads R) : (t.caught : Task δ σ _).Leads R := by
  intro w
  have hworld : ((t.caught : Task δ σ _).run w).world = (t.run w).world := by
    simp only [Task.run, Task.caught]
    cases (t w).ending <;> rfl
  rw [hworld]
  exact h w

/-- A task on a part of a larger world leads where that part does. -/
theorem within {S : τ → τ → Prop} {part : τ → σ} {update : σ → τ → τ}
    (h : t.Leads R) (hupdate : ∀ v w, R (part v) w → S v (update w v)) :
    (t.within part update).Leads S :=
  fun v => hupdate v _ (h (part v))

end Leads

/-- However a task ends, it leads along one relation, and where it is done it
leads along another one too. -/
structure Attains (t : Task ε σ α) (R S : σ → σ → Prop) : Prop where
  leads : t.Leads R
  done : ∀ {w v w'}, t.Ends w (.done v) w' → S w w'

namespace Attains

variable {R S : σ → σ → Prop} {t : Task ε σ α} {next : α → Task ε σ β}

/-- What the first part of a task attains, the whole attains. -/
theorem bind_first [IsTrans σ R] [Trans S R S] (h : t.Attains R S)
    (hnext : ∀ v, (next v).Leads R) : (t >>= next).Attains R S where
  leads := h.leads.bind hnext
  done hends := by
    obtain ⟨v, w', hfirst, hrest⟩ := hends.of_bind_done
    obtain rfl := hrest.2
    exact Trans.trans (h.done hfirst) (hnext v w')

/-- What the last part of a task attains, the whole attains. -/
theorem bind_last [IsTrans σ R] [Trans R S S] (h : t.Leads R)
    (hnext : ∀ v, (next v).Attains R S) : (t >>= next).Attains R S where
  leads := h.bind fun v => (hnext v).leads
  done {w} _ _ hends := by
    obtain ⟨v, w', hfirst, hrest⟩ := hends.of_bind_done
    obtain rfl := hfirst.2
    exact Trans.trans (h w) ((hnext v).done hrest)

theorem mapError (f : ε → δ) (h : t.Attains R S) : (t.mapError f).Attains R S where
  leads := h.leads.mapError f
  done hends := h.done hends.of_mapError_done

/-- A task on a part of a larger world attains there what it attains on the
part. -/
theorem within {R' S' : τ → τ → Prop} {part : τ → σ} {update : σ → τ → τ}
    (h : t.Attains R S) (hleads : ∀ v w, R (part v) w → R' v (update w v))
    (hdone : ∀ v w, S (part v) w → S' v (update w v)) :
    (t.within part update).Attains R' S' where
  leads := h.leads.within hleads
  done {v} _ _ hends := by
    obtain ⟨hending, rfl⟩ := hends
    exact hdone v _ (h.done ⟨hending, rfl⟩)

end Attains

end ScrobbleRelay.Task
