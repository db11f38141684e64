import ScrobbleRelay.Proofs.Ends

/-!
# Twin tasks

Two tasks are twins along a relation between worlds if nobody can tell them
apart by what they show: begun in related worlds they end alike and write the
same lines, and the worlds they leave are related again.  The relation says
how far the two worlds may differ meanwhile.

The rules follow the operations on tasks.  A task of several steps has a twin
where each step has one, for an ending that both share takes both the same
way.
-/

namespace ScrobbleRelay

variable {ε δ σ τ α β : Type}

/-- Two runs that show the same and leave related worlds. -/
structure Run.Twin (R : σ → σ → Prop) (r r' : Run ε σ α) : Prop where
  ending : r.ending = r'.ending
  lines : r.lines = r'.lines
  world : R r.world r'.world

namespace Task

/-- Two tasks that cannot be told apart in related worlds. -/
def Twin (R : σ → σ → Prop) (t t' : Task ε σ α) : Prop :=
  ∀ w w', R w w' → (t.run w).Twin R (t'.run w')

namespace Twin

variable {R : σ → σ → Prop} {t t' : Task ε σ α} {next next' : α → Task ε σ β}

/-! ## Tasks that are blind to the world -/

theorem done (value : α) : (Task.done value : Task ε σ α).Twin R (.done value) :=
  fun _ _ hw => ⟨rfl, rfl, hw⟩

theorem fail (error : ε) : (Task.fail error : Task ε σ α).Twin R (.fail error) :=
  fun _ _ hw => ⟨rfl, rfl, hw⟩

theorem crash : (Task.crash : Task ε σ α).Twin R .crash :=
  fun _ _ hw => ⟨rfl, rfl, hw⟩

theorem log (level : Log.Level) (origin : Log.Origin) (text : String) :
    (Task.log level origin text : Task ε σ Unit).Twin R
      (.log level origin text) :=
  fun _ _ hw => ⟨rfl, rfl, hw⟩

theorem ofExcept (result : Except ε α) :
    (Task.ofExcept result : Task ε σ α).Twin R (.ofExcept result) := by
  cases result with
  | ok value => exact done value
  | error error => exact fail error

/-! ## Tasks that are not -/

theorem change {f f' : σ → σ} (h : ∀ w w', R w w' → R (f w) (f' w')) :
    (Task.change f : Task ε σ Unit).Twin R (.change f') :=
  fun w w' hw => ⟨rfl, rfl, h w w' hw⟩

/-- What two tasks read off their worlds need not be the same, as long as
they go on as twins. -/
theorem world_bind {next next' : σ → Task ε σ β}
    (h : ∀ w w', R w w' → (next w).Twin R (next' w')) :
    (Task.world >>= next).Twin R (Task.world >>= next') :=
  fun w w' hw => h w w' hw w w' hw

/-- Two first parts that are twins have the same value, so it is enough that
the rests are twins for each value. -/
theorem bind (h : t.Twin R t') (hnext : ∀ v, (next v).Twin R (next' v)) :
    (t >>= next).Twin R (t' >>= next') := by
  intro w w' hw
  obtain ⟨hending, hlines, hworld⟩ := h w w' hw
  rw [run_bind, run_bind, ← hending]
  cases (t.run w).ending with
  | done v =>
      obtain ⟨hrest, hrestLines, hafter⟩ := hnext v _ _ hworld
      refine ⟨hrest, ?_, hafter⟩
      simp only [hlines, hrestLines]
  | failed error => exact ⟨rfl, hlines, hworld⟩
  | crashed => exact ⟨rfl, hlines, hworld⟩

theorem mapError (f : ε → δ) (h : t.Twin R t') :
    (t.mapError f).Twin R (t'.mapError f) := by
  intro w w' hw
  obtain ⟨hending, hlines, hworld⟩ := h w w' hw
  exact ⟨congrArg (Ending.mapError f) hending, hlines, hworld⟩

/-- Twins on a part are twins on the whole, if what is around the part is kept
related by putting related parts back. -/
theorem within {S : τ → τ → Prop} {part : τ → σ} {update : σ → τ → τ}
    (h : t.Twin R t') (hpart : ∀ v v', S v v' → R (part v) (part v'))
    (hupdate : ∀ v v' w w', S v v' → R w w' → S (update w v) (update w' v')) :
    (t.within part update).Twin S (t'.within part update) := by
  intro v v' hv
  obtain ⟨hending, hlines, hworld⟩ := h _ _ (hpart v v' hv)
  exact ⟨hending, hlines, hupdate v v' _ _ hv hworld⟩

end Twin

end Task

end ScrobbleRelay
