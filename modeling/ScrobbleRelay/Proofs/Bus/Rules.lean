import ScrobbleRelay.Bus.Session
import ScrobbleRelay.Proofs.Ends
import ScrobbleRelay.Settings.Validate

/-!
# Rules of accepted subscriptions

A subscription has a match rule exactly where validation accepts it, since
both make the same four checks.  The rule lets a signal through exactly where
the subscription asks for it; of a sender only a unique name can be compared,
which is one that begins with a colon, or the name of the bus itself.
-/

namespace ScrobbleRelay

namespace Bus

open Settings (BusSettings)

/-! ## Unique names -/

/-- The names that the bus gives to connections, and its own. -/
def IsUniqueName (name : String) : Prop :=
  name.toList.head? = some ':' ∨ name = busItself

instance (name : String) : Decidable (IsUniqueName name) :=
  inferInstanceAs (Decidable (_ ∨ _))

theorem isUniqueName_of_checkUnique {name : String}
    (h : checkUnique name = .ok ()) : IsUniqueName name := by
  unfold checkUnique at h
  split at h
  · cases h
  · split at h
    · cases h
    · split at h
      · exact .inr ‹_›
      · split at h
        · rename_i rest hname
          left
          rw [hname]
          rfl
        · cases h

theorem checkWellKnown_ne_ok {name : String} (h : IsUniqueName name)
    (hunique : checkUnique name ≠ .ok ()) : checkWellKnown name ≠ .ok () := by
  rcases h with hcolon | rfl
  · obtain ⟨rest, hname⟩ := List.head?_eq_some_iff.mp hcolon
    unfold checkWellKnown
    split
    · simp
    · rw [Ne, bind_eq_ok_iff, hname]
      rintro ⟨_, -, helements⟩
      have hsign : isBusNameChar ':' = false := by decide
      simp [checkElements, hsign] at helements
  · exact absurd rfl hunique

theorem senderName_ofText_eq_ok {name : String} {sender : SenderName}
    (h : SenderName.ofText name = .ok sender) :
    sender = if IsUniqueName name then .unique name else .wellKnown name := by
  unfold SenderName.ofText at h
  split at h
  · rename_i hunique
    rw [if_pos (isUniqueName_of_checkUnique hunique)]
    exact (Except.ok.inj h).symm
  · rename_i fault hunique
    split at h
    · rename_i hknown
      have hother : ¬ IsUniqueName name := by
        intro hname
        exact checkWellKnown_ne_ok hname (by simp [hunique]) hknown
      rw [if_neg hother]
      exact (Except.ok.inj h).symm
    · cases h

end Bus

/-! ## Validation and rules -/

namespace Settings

open Bus (MatchRule SenderName Signal)

/-- The four checks of a subscription. -/
structure BusSettings.Named (s : BusSettings) : Prop where
  member : MatchRule.checkMemberName s.signalName = .ok ()
  interface : ∀ name ∈ s.interface, MatchRule.checkInterfaceName name = .ok ()
  path : ∀ path ∈ s.path, MatchRule.checkPath path = .ok ()
  sender : ∀ name ∈ s.sender, ∃ sender, SenderName.ofText name = .ok sender

theorem checkFilter_eq_ok_iff {check : String → Except Bus.NameError Unit}
    {refusal : String → Bus.NameError → Invalid} {filter : Option String} :
    checkFilter check refusal filter = .ok () ↔
      ∀ name ∈ filter, check name = .ok () := by
  rcases filter with _ | name
  · simp [checkFilter]
  · simp [checkFilter, checkName, mapError_eq_ok_iff]

theorem checkSender_eq_ok_iff {name : String} :
    checkSender name = .ok () ↔ ∃ sender, SenderName.ofText name = .ok sender := by
  unfold checkSender
  rcases SenderName.ofText name with e | sender
  · simp [Except.map]
  · simp [Except.map]

theorem checkOption_eq_ok_iff {check : String → Except Bus.NameError Unit}
    {filter : Option String} :
    MatchRule.checkOption check filter = .ok () ↔
      ∀ name ∈ filter, check name = .ok () := by
  rcases filter with _ | name
  · simp [MatchRule.checkOption]
  · simp [MatchRule.checkOption]

theorem BusSettings.validate_eq_ok_iff {s : BusSettings} :
    s.validate = .ok () ↔ s.Named := by
  unfold BusSettings.validate
  simp only [check_bind_eq_ok_iff, checkFilter_eq_ok_iff,
    checkSender_eq_ok_iff, checkName, mapError_eq_ok_iff]
  constructor
  · rintro ⟨hmember, hinterface, hpath, hsender⟩
    exact ⟨hmember, hinterface, hpath, hsender⟩
  · rintro ⟨hmember, hinterface, hpath, hsender⟩
    exact ⟨hmember, hinterface, hpath, hsender⟩

theorem senderOfOption_eq_ok_iff {filter : Option String}
    {sender : Option SenderName} :
    MatchRule.senderOfOption filter = .ok sender ↔
      (∀ name ∈ filter, ∃ known, SenderName.ofText name = .ok known) ∧
        sender = filter.map fun name =>
          if Bus.IsUniqueName name then .unique name else .wellKnown name := by
  rcases filter with _ | name
  · simp [MatchRule.senderOfOption, eq_comm]
  · rcases hread : SenderName.ofText name with e | known
    · simp [MatchRule.senderOfOption, hread, Except.map]
    · have hknown := Bus.senderName_ofText_eq_ok hread
      simp [MatchRule.senderOfOption, hread, Except.map, hknown, eq_comm]

def BusSettings.rule (s : BusSettings) : MatchRule where
  member := s.signalName
  interface := s.interface
  path := s.path
  sender := s.sender.map fun name =>
    if Bus.IsUniqueName name then .unique name else .wellKnown name

theorem ofSettings_eq_ok_iff {s : BusSettings} {rule : MatchRule} :
    MatchRule.ofSettings s = .ok rule ↔ s.Named ∧ rule = s.rule := by
  unfold MatchRule.ofSettings
  simp only [check_bind_eq_ok_iff]
  simp only [bind_eq_ok_iff, checkOption_eq_ok_iff, senderOfOption_eq_ok_iff]
  constructor
  · rintro ⟨hmember, hinterface, hpath, _, ⟨hsender, rfl⟩, hrule⟩
    obtain rfl := Except.ok.inj hrule
    exact ⟨⟨hmember, hinterface, hpath, hsender⟩, rfl⟩
  · rintro ⟨⟨hmember, hinterface, hpath, hsender⟩, rfl⟩
    exact ⟨hmember, hinterface, hpath, _, ⟨hsender, rfl⟩, rfl⟩

/-! ## Signals that are asked for -/

/-- The signals that a subscription asks for. -/
structure BusSettings.Wants (s : BusSettings) (signal : Signal) : Prop where
  member : signal.member = s.signalName
  interface : ∀ name ∈ s.interface, signal.interface = name
  path : ∀ path ∈ s.path, signal.path = path
  sender : ∀ name ∈ s.sender, Bus.IsUniqueName name → signal.sender = some name

theorem BusSettings.rule_lets_iff {s : BusSettings} {signal : Signal} :
    s.rule.lets signal = true ↔ s.Wants signal := by
  have hsender :
      MatchRule.senderMatches s.rule.sender signal = true ↔
        ∀ name ∈ s.sender, Bus.IsUniqueName name →
          signal.sender = some name := by
    unfold BusSettings.rule
    rcases s.sender with _ | name
    · simp [MatchRule.senderMatches]
    · by_cases hname : Bus.IsUniqueName name
      · simp [MatchRule.senderMatches, hname]
      · simp [MatchRule.senderMatches, hname]
  unfold MatchRule.lets
  rw [Bool.and_eq_true, hsender]
  simp only [BusSettings.rule, Bool.and_eq_true, beq_iff_eq, Option.all_eq_true]
  constructor
  · rintro ⟨⟨⟨hmember, hinterface⟩, hpath⟩, hsender⟩
    refine ⟨hmember, ?_, ?_, hsender⟩
    · intro name hname
      exact (hinterface name hname).symm
    · intro path hpath'
      exact (hpath path hpath').symm
  · rintro ⟨hmember, hinterface, hpath, hsender⟩
    refine ⟨⟨⟨hmember, ?_⟩, ?_⟩, hsender⟩
    · intro name hname
      exact (hinterface name hname).symm
    · intro path hpath'
      exact (hpath path hpath').symm

end Settings

end ScrobbleRelay
