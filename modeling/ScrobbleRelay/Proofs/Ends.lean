import ScrobbleRelay.Task

/-!
# How tasks end

`Ends t w e w'` says that a task begun in the world `w` has the ending `e`
and leaves the world `w'`; nothing is said about its lines.  The rules follow
the operations on tasks, so that what a task of several steps does is put
together from what its steps do.
-/

namespace ScrobbleRelay

/-- Two steps that may fail give a value where both of them do. -/
theorem bind_eq_ok_iff {ε α β : Type} {x : Except ε α} {f : α → Except ε β}
    {value : β} :
    x >>= f = .ok value ↔ ∃ a, x = .ok a ∧ f a = .ok value := by
  cases x with
  | error e =>
      constructor
      · intro h
        cases h
      · rintro ⟨a, h, -⟩
        cases h
  | ok a =>
      constructor
      · intro h
        exact ⟨a, rfl, h⟩
      · rintro ⟨b, hb, h⟩
        obtain rfl := Except.ok.inj hb
        exact h

/-- A check and what comes after it give a value where both of them do. -/
theorem check_bind_eq_ok_iff {ε β : Type} {x : Except ε Unit}
    {f : Unit → Except ε β} {value : β} :
    x >>= f = .ok value ↔ x = .ok () ∧ f () = .ok value := by
  rw [bind_eq_ok_iff]
  constructor
  · rintro ⟨_, h⟩
    exact h
  · intro h
    exact ⟨(), h⟩

theorem mapError_eq_ok_iff {ε δ α : Type} {f : ε → δ} {x : Except ε α}
    {a : α} : x.mapError f = .ok a ↔ x = .ok a := by
  cases x with
  | error e =>
      constructor
      · intro h
        cases h
      · intro h
        cases h
  | ok b =>
      constructor
      · intro h
        obtain rfl : b = a := Except.ok.inj h
        rfl
      · intro h
        obtain rfl : b = a := Except.ok.inj h
        rfl

theorem toOption_eq_some_iff {ε α : Type} {x : Except ε α} {a : α} :
    x.toOption = some a ↔ x = .ok a := by
  cases x <;> simp [Except.toOption]

theorem Ending.map_unit {ε : Type} (ending : Ending ε Unit) :
    ending.map (fun _ => ()) = ending := by
  cases ending <;> rfl

namespace Task

variable {ε δ σ τ α β : Type}

/-- A task begun in one world has an ending and leaves another world. -/
def Ends (t : Task ε σ α) (w : σ) (ending : Ending ε α) (w' : σ) : Prop :=
  (t.run w).ending = ending ∧ (t.run w).world = w'

namespace Ends

variable {t : Task ε σ α} {next : α → Task ε σ β} {w w' w'' : σ}

theorem pure (value : α) (w : σ) :
    Ends (Pure.pure value : Task ε σ α) w (.done value) w :=
  ⟨rfl, rfl⟩

theorem fail (error : ε) (w : σ) :
    Ends (Task.fail error : Task ε σ α) w (.failed error) w :=
  ⟨rfl, rfl⟩

theorem world (w : σ) : Ends (Task.world : Task ε σ σ) w (.done w) w :=
  ⟨rfl, rfl⟩

theorem change (f : σ → σ) (w : σ) :
    Ends (Task.change f : Task ε σ Unit) w (.done ()) (f w) :=
  ⟨rfl, rfl⟩

theorem log (level : Log.Level) (origin : Log.Origin) (text : String) (w : σ) :
    Ends (Task.log level origin text : Task ε σ Unit) w (.done ()) w :=
  ⟨rfl, rfl⟩

/-- A task goes on where its first part is done. -/
theorem bind {value : α} {ending : Ending ε β}
    (hfirst : t.Ends w (.done value) w')
    (hnext : (next value).Ends w' ending w'') :
    (t >>= next).Ends w ending w'' := by
  obtain ⟨hvalue, rfl⟩ := hfirst
  obtain ⟨rfl, rfl⟩ := hnext
  constructor <;> rw [run_bind, hvalue]

theorem bind_failed {error : ε} (hfirst : t.Ends w (.failed error) w') :
    (t >>= next).Ends w (.failed error) w' := by
  obtain ⟨herror, rfl⟩ := hfirst
  constructor <;> rw [run_bind, herror]

theorem bind_crashed (hfirst : t.Ends w .crashed w') :
    (t >>= next).Ends w .crashed w' := by
  obtain ⟨hcrash, rfl⟩ := hfirst
  constructor <;> rw [run_bind, hcrash]

/-- A task goes on after its first part, or ends as that part did. -/
theorem of_bind {ending : Ending ε β} (h : (t >>= next).Ends w ending w'') :
    (∃ v w', t.Ends w (.done v) w' ∧ (next v).Ends w' ending w'') ∨
    (∃ error, t.Ends w (.failed error) w'' ∧ ending = .failed error) ∨
    (t.Ends w .crashed w'' ∧ ending = .crashed) := by
  obtain ⟨rfl, rfl⟩ := h
  rw [run_bind]
  cases hfirst : (t.run w).ending with
  | done v => exact .inl ⟨v, _, ⟨hfirst, rfl⟩, rfl, rfl⟩
  | failed error => exact .inr (.inl ⟨error, ⟨hfirst, rfl⟩, rfl⟩)
  | crashed => exact .inr (.inr ⟨⟨hfirst, rfl⟩, rfl⟩)

/-- A task goes on after its first part, or neither of them is done. -/
theorem of_bind_or_stops {ending : Ending ε β}
    (h : (t >>= next).Ends w ending w'') :
    (∃ v w', t.Ends w (.done v) w' ∧ (next v).Ends w' ending w'') ∨
    (∃ first, t.Ends w first w'' ∧ (∀ v, first ≠ .done v) ∧
      ∀ v, ending ≠ .done v) := by
  rcases h.of_bind with hdone | ⟨error, hfailed, rfl⟩ | ⟨hcrashed, rfl⟩
  · exact .inl hdone
  · exact .inr ⟨_, hfailed, by simp, by simp⟩
  · exact .inr ⟨_, hcrashed, by simp, by simp⟩

/-- A task that is done was done with its first part, and then with the
rest. -/
theorem of_bind_done {value : β} (h : (t >>= next).Ends w (.done value) w'') :
    ∃ v w', t.Ends w (.done v) w' ∧ (next v).Ends w' (.done value) w'' := by
  rcases h.of_bind_or_stops with hdone | ⟨first, -, -, hstops⟩
  · exact hdone
  · exact absurd rfl (hstops value)

/-- Where the rest of a task only makes a value of the first one, the task ends
as its first part does. -/
theorem of_bind_value {f : α → β} {ending : Ending ε β}
    (h : (t >>= next).Ends w ending w'')
    (hnext : ∀ v w', (next v).Ends w' (.done (f v)) w') :
    ∃ first, t.Ends w first w'' ∧ ending = first.map f := by
  rcases h.of_bind with
    ⟨v, w', hfirst, hrest⟩ | ⟨error, hfailed, rfl⟩ | ⟨hcrashed, rfl⟩
  · obtain ⟨rfl, rfl⟩ := hrest
    refine ⟨.done v, ?_, (hnext v w').1⟩
    rw [(hnext v w').2]
    exact hfirst
  · exact ⟨_, hfailed, rfl⟩
  · exact ⟨_, hcrashed, rfl⟩

theorem of_world_bind {next : σ → Task ε σ β} {ending : Ending ε β}
    (h : (Task.world >>= next).Ends w ending w') :
    (next w).Ends w ending w' :=
  h

theorem of_change_bind {f : σ → σ} {next : Unit → Task ε σ β}
    {ending : Ending ε β} (h : (Task.change f >>= next).Ends w ending w') :
    (next ()).Ends (f w) ending w' :=
  h

theorem of_ofExcept_done {result : Except ε α} {value : α}
    (h : (Task.ofExcept result).Ends w (.done value) w') :
    result = .ok value ∧ w' = w := by
  obtain ⟨hending, rfl⟩ := h
  cases result with
  | error error => cases hending
  | ok v =>
      cases hending
      exact ⟨rfl, rfl⟩

theorem of_mapError {f : ε → δ} {ending : Ending δ α}
    (h : (t.mapError f).Ends w ending w') :
    ∃ inner, t.Ends w inner w' ∧ ending = inner.mapError f :=
  ⟨_, ⟨rfl, h.2⟩, h.1.symm⟩

/-- A task whose error is told in another way is done where it was done. -/
theorem of_mapError_done {f : ε → δ} {value : α}
    (h : (t.mapError f).Ends w (.done value) w') : t.Ends w (.done value) w' := by
  obtain ⟨inner, hinner, hending⟩ := of_mapError h
  cases inner with
  | done v =>
      cases hending
      exact hinner
  | failed error => cases hending
  | crashed => cases hending

theorem mapError {ending : Ending ε α} (f : ε → δ) (h : t.Ends w ending w') :
    (t.mapError f).Ends w (ending.mapError f) w' := by
  obtain ⟨rfl, rfl⟩ := h
  exact ⟨rfl, rfl⟩

theorem within {ending : Ending ε α} {part : τ → σ} {update : σ → τ → τ}
    {v : τ} (h : t.Ends (part v) ending w') :
    (t.within part update).Ends v ending (update w' v) := by
  obtain ⟨rfl, rfl⟩ := h
  exact ⟨rfl, rfl⟩

end Ends

/-! ## Tasks that do not crash -/

/-- A task begun in one world has a value or fails, and leaves another
world. -/
def Yields (t : Task ε σ α) (w : σ) (value : Option α) (w' : σ) : Prop :=
  match value with
  | some v => t.Ends w (.done v) w'
  | none => ∃ error, t.Ends w (.failed error) w'

namespace Yields

variable {t : Task ε σ α} {next : α → Task ε σ β} {w w' : σ}
  {value : Option α}

theorem pure (v : α) (w : σ) :
    Yields (Pure.pure v : Task ε σ α) w (some v) w :=
  Ends.pure v w

theorem fail (error : ε) (w : σ) :
    Yields (Task.fail error : Task ε σ α) w none w :=
  ⟨error, Ends.fail error w⟩

theorem ofExcept (result : Except ε α) (w : σ) :
    (Task.ofExcept result : Task ε σ α).Yields w result.toOption w := by
  cases result with
  | ok v => exact ⟨rfl, rfl⟩
  | error error => exact ⟨error, rfl, rfl⟩

theorem world_eq (h : t.Yields w value w') : (t.run w).world = w' := by
  cases value with
  | none =>
      obtain ⟨error, -, hworld⟩ := h
      exact hworld
  | some v => exact h.2

theorem done_iff (h : t.Yields w value w') (v : α) :
    (t.run w).ending = .done v ↔ value = some v := by
  cases value with
  | none =>
      obtain ⟨error, hfailed, -⟩ := h
      rw [hfailed]
      simp
  | some v' =>
      rw [h.1]
      simp

/-- A task goes on in a part that leaves the world as it is. -/
theorem bind {f : α → Option β} (h : t.Yields w value w')
    (hnext : ∀ v, (next v).Yields w' (f v) w') :
    (t >>= next).Yields w (value.bind f) w' := by
  cases value with
  | none =>
      obtain ⟨error, hfailed⟩ := h
      exact ⟨error, hfailed.bind_failed⟩
  | some v =>
      have hrest := hnext v
      simp only [Yields, Option.bind_some] at hrest ⊢
      cases hvalue : f v with
      | none =>
          rw [hvalue] at hrest
          obtain ⟨error, hfailed⟩ := hrest
          exact ⟨error, h.bind hfailed⟩
      | some v' =>
          rw [hvalue] at hrest
          exact h.bind hrest

theorem done_bind {v : α} {w'' : σ} {value : Option β}
    (hfirst : t.Ends w (.done v) w') (h : (next v).Yields w' value w'') :
    (t >>= next).Yields w value w'' := by
  cases value with
  | none =>
      obtain ⟨error, hfailed⟩ := h
      exact ⟨error, hfirst.bind hfailed⟩
  | some v => exact hfirst.bind h

/-- A line in the log changes nothing about what comes after it. -/
theorem log_bind {next : Unit → Task ε σ β} {value : Option β}
    (level : Log.Level) (origin : Log.Origin) (text : String)
    (h : (next ()).Yields w value w') :
    (Task.log level origin text >>= next).Yields w value w' :=
  done_bind (Ends.log level origin text w) h

theorem mapError (f : ε → δ) (h : t.Yields w value w') :
    (t.mapError f).Yields w value w' := by
  cases value with
  | none =>
      obtain ⟨error, hfailed⟩ := h
      exact ⟨f error, hfailed.mapError f⟩
  | some v => exact Ends.mapError f h

end Yields

end Task

end ScrobbleRelay
