import ScrobbleRelay.Proofs.Bus.Names
import ScrobbleRelay.Proofs.Settings.Stored

/-!
# The texts of rules

A subscription that is accepted has only names in it, so none of its values
holds a comma or a quote.  The text of its rule is therefore cut at its commas
into the components that were written, and reading these gives back the
subscription, whatever is set in it.
-/

namespace ScrobbleRelay

namespace Bus

/-! ## Components -/

namespace MatchRule

variable {key value : String}

theorem toList_componentText (component : String × String) :
    (componentText component).toList =
      component.1.toList ++ '=' :: '\'' :: (component.2.toList ++ ['\'']) := by
  simp [componentText]

theorem comma_notMem_componentText (hkey : Unquoted key) (hvalue : Unquoted value) :
    ',' ∉ (componentText (key, value)).toList := by
  rw [toList_componentText]
  simp only [List.mem_append, List.mem_cons]
  rintro (hmem | heq | heq | hmem | heq | hnil)
  · exact (hkey ',' hmem).1 rfl
  · cases heq
  · cases heq
  · exact (hvalue ',' hmem).1 rfl
  · cases heq
  · cases hnil

theorem readComponent?_componentText (hkey : Unquoted key)
    (hvalue : Unquoted value) :
    readComponent? (componentText (key, value)).toList = some (key, value) := by
  have hstart : '\'' ∉ key.toList ++ ['='] := by
    simp only [List.mem_append, List.mem_singleton]
    rintro (hmem | heq)
    · exact (hkey '\'' hmem).2 rfl
    · cases heq
  have hquote : '\'' ∉ value.toList := fun hmem => (hvalue '\'' hmem).2 rfl
  have hsplit : (componentText (key, value)).toList.splitOn '\'' =
      [key.toList ++ ['='], value.toList, []] := by
    have htext : (componentText (key, value)).toList =
        (key.toList ++ ['=']) ++ '\'' :: (value.toList ++ '\'' :: []) := by
      simp [toList_componentText]
    rw [htext, List.splitOn_append_cons_self_of_not_mem hstart,
      List.splitOn_append_cons_self_of_not_mem hquote]
    rfl
  simp [readComponent?, hsplit]

variable {r : MatchRule}

/-- A rule whose components hold no commas and quotes is cut at its commas into
their texts. -/
theorem splitOn_text (h : ∀ component ∈ r.components,
    Unquoted component.1 ∧ Unquoted component.2) :
    r.text.toList.splitOn ',' =
      r.components.map fun component => (componentText component).toList := by
  have htext : r.text.toList = [','].intercalate
      (r.components.map fun component => (componentText component).toList) := by
    simp [text, String.toList_intercalate, Function.comp_def]
  have hcommas : ∀ piece ∈ r.components.map fun component =>
      (componentText component).toList, ',' ∉ piece := by
    intro piece hpiece
    obtain ⟨component, hcomponent, rfl⟩ := List.mem_map.mp hpiece
    exact comma_notMem_componentText (h component hcomponent).1
      (h component hcomponent).2
  rw [htext]
  exact List.splitOn_intercalate ',' hcommas (by simp [components])

theorem readComponents_text (h : ∀ component ∈ r.components,
    Unquoted component.1 ∧ Unquoted component.2) :
    readComponents r.text = r.components := by
  rw [readComponents, splitOn_text h, List.filterMap_map]
  have hread : ∀ component ∈ r.components,
      (readComponent? ∘ fun component => (componentText component).toList)
        component = some component := by
    intro component hcomponent
    exact readComponent?_componentText (h component hcomponent).1
      (h component hcomponent).2
  rw [List.filterMap_congr hread, List.filterMap_some]

end MatchRule

end Bus

namespace Settings

open Bus (MatchRule IsMemberName IsDotted IsObjectPath IsBusName Unquoted)

variable {s : BusSettings}

/-! ## Accepted subscriptions -/

/-- The names of a subscription are names of the bus, each one of its kind. -/
structure BusSettings.WellNamed (s : BusSettings) : Prop where
  member : IsMemberName s.signalName
  interface : ∀ name ∈ s.interface, IsDotted Bus.isWordChar name
  path : ∀ path ∈ s.path, IsObjectPath path
  sender : ∀ name ∈ s.sender, IsBusName name

theorem BusSettings.named_iff : s.Named ↔ s.WellNamed := by
  have hmember : MatchRule.checkMemberName s.signalName = .ok () ↔
      IsMemberName s.signalName := by
    rw [MatchRule.checkMemberName, mapError_eq_ok_iff, Bus.checkMember_eq_ok_iff]
  have hinterface (name : String) : MatchRule.checkInterfaceName name = .ok () ↔
      IsDotted Bus.isWordChar name := by
    rw [MatchRule.checkInterfaceName, mapError_eq_ok_iff,
      Bus.checkInterface_eq_ok_iff]
  have hpath (path : String) : MatchRule.checkPath path = .ok () ↔
      IsObjectPath path := by
    rw [MatchRule.checkPath, mapError_eq_ok_iff, Bus.checkObjectPath_eq_ok_iff]
  constructor
  · rintro ⟨hsignal, hinterfaces, hpaths, hsenders⟩
    refine ⟨hmember.mp hsignal, ?_, ?_, ?_⟩
    · intro name hname
      exact (hinterface name).mp (hinterfaces name hname)
    · intro path hmem
      exact (hpath path).mp (hpaths path hmem)
    · intro name hname
      exact Bus.exists_senderName_iff.mp (hsenders name hname)
  · rintro ⟨hsignal, hinterfaces, hpaths, hsenders⟩
    refine ⟨hmember.mpr hsignal, ?_, ?_, ?_⟩
    · intro name hname
      exact (hinterface name).mpr (hinterfaces name hname)
    · intro path hmem
      exact (hpath path).mpr (hpaths path hmem)
    · intro name hname
      exact Bus.exists_senderName_iff.mpr (hsenders name hname)

/-- The keys and values that the rule of a subscription is written with. -/
def BusSettings.components (s : BusSettings) : List (String × String) :=
  [("type", "signal")]
    ++ (s.sender.map fun sender => ("sender", sender)).toList
    ++ (s.interface.map fun interface => ("interface", interface)).toList
    ++ [("member", s.signalName)]
    ++ (s.path.map fun path => ("path", path)).toList

theorem BusSettings.rule_components (s : BusSettings) :
    s.rule.components = s.components := by
  have hsender : s.rule.sender.map (fun sender => ("sender", sender.text)) =
      s.sender.map fun sender => ("sender", sender) := by
    rw [BusSettings.rule, Option.map_map]
    congr 1
    funext name
    by_cases hname : Bus.IsUniqueName name
    · simp [hname, Bus.SenderName.text]
    · simp [hname, Bus.SenderName.text]
  rw [MatchRule.components, hsender]
  rfl

/-- There is one component for the type, one for the member, and one for each
filter that is set. -/
theorem BusSettings.mem_components_iff {key value : String} :
    (key, value) ∈ s.components ↔
      (key = "type" ∧ value = "signal") ∨
      (key = "sender" ∧ s.sender = some value) ∨
      (key = "interface" ∧ s.interface = some value) ∨
      (key = "member" ∧ value = s.signalName) ∨
      (key = "path" ∧ s.path = some value) := by
  simp only [BusSettings.components, List.mem_append, List.mem_singleton,
    Option.mem_toList, Option.map_eq_some_iff, Prod.mk.injEq]
  constructor
  · rintro ((((htype | ⟨_, hsender, rfl, rfl⟩) | ⟨_, hinterface, rfl, rfl⟩) |
      hmember) | ⟨_, hpath, rfl, rfl⟩)
    · exact .inl htype
    · exact .inr (.inl ⟨rfl, hsender⟩)
    · exact .inr (.inr (.inl ⟨rfl, hinterface⟩))
    · exact .inr (.inr (.inr (.inl hmember)))
    · exact .inr (.inr (.inr (.inr ⟨rfl, hpath⟩)))
  · rintro (htype | ⟨rfl, hsender⟩ | ⟨rfl, hinterface⟩ | hmember | ⟨rfl, hpath⟩)
    · exact .inl (.inl (.inl (.inl htype)))
    · exact .inl (.inl (.inl (.inr ⟨value, hsender, rfl, rfl⟩)))
    · exact .inl (.inl (.inr ⟨value, hinterface, rfl, rfl⟩))
    · exact .inl (.inr hmember)
    · exact .inr ⟨value, hpath, rfl, rfl⟩

theorem BusSettings.nodup_components (s : BusSettings) :
    (s.components.map Prod.fst).Nodup := by
  obtain ⟨signalName, interface, path, sender⟩ := s
  rcases interface with _ | interface <;> rcases path with _ | path <;>
    rcases sender with _ | sender <;> simp [BusSettings.components]

/-- The value of a key is looked up among the components. -/
theorem BusSettings.lookup_components {key : String} {value : Option String}
    (h : ∀ v, (key, v) ∈ s.components ↔ value = some v) :
    s.components.lookup key = value := by
  rcases hlookup : s.components.lookup key with _ | v
  · rw [List.lookup_eq_none_iff] at hlookup
    rcases value with _ | v
    · rfl
    · exact absurd rfl (bne_iff_ne.mp (hlookup (key, v) ((h v).mpr rfl)))
  · obtain ⟨front, back, hcomponents, -⟩ := List.lookup_eq_some_iff.mp hlookup
    exact ((h v).mp (by simp [hcomponents])).symm

/-- No value in an accepted subscription has a comma or a quote. -/
theorem BusSettings.WellNamed.unquoted (h : s.WellNamed) :
    ∀ component ∈ s.components, Unquoted component.1 ∧ Unquoted component.2 := by
  have hkeys : ∀ key ∈ ["type", "sender", "interface", "member", "path"],
      Unquoted key := by
    decide +kernel
  rintro ⟨key, value⟩ hcomponent
  rcases BusSettings.mem_components_iff.mp hcomponent with
    ⟨rfl, rfl⟩ | ⟨rfl, hsender⟩ | ⟨rfl, hinterface⟩ | ⟨rfl, rfl⟩ | ⟨rfl, hpath⟩
  · exact ⟨hkeys "type" (by simp), by decide +kernel⟩
  · exact ⟨hkeys "sender" (by simp), (h.sender value hsender).unquoted⟩
  · refine ⟨hkeys "interface" (by simp), (h.interface value hinterface).unquoted ?_⟩
    intro c
    exact Bus.isBusNameChar_of_isWordChar
  · exact ⟨hkeys "member" (by simp), h.member.unquoted⟩
  · exact ⟨hkeys "path" (by simp), (h.path value hpath).unquoted⟩

theorem BusSettings.WellNamed.read?_text (h : s.WellNamed) :
    MatchRule.read? s.rule.text = some s := by
  have hcomponents : MatchRule.readComponents s.rule.text = s.components := by
    rw [MatchRule.readComponents_text, s.rule_components]
    rw [s.rule_components]
    exact h.unquoted
  have htype : s.components.lookup "type" = some "signal" := by
    apply BusSettings.lookup_components
    simp [BusSettings.mem_components_iff, eq_comm]
  have hmember : s.components.lookup "member" = some s.signalName := by
    apply BusSettings.lookup_components
    simp [BusSettings.mem_components_iff, eq_comm]
  have hinterface : s.components.lookup "interface" = s.interface := by
    apply BusSettings.lookup_components
    simp [BusSettings.mem_components_iff]
  have hpath : s.components.lookup "path" = s.path := by
    apply BusSettings.lookup_components
    simp [BusSettings.mem_components_iff]
  have hsender : s.components.lookup "sender" = s.sender := by
    apply BusSettings.lookup_components
    simp [BusSettings.mem_components_iff]
  simp only [MatchRule.read?, hcomponents, htype, hmember, hinterface, hpath,
    hsender]

/-- How a text tells a subscription: between its commas there is one component
for the type, one for the member, and one for each filter that is set. -/
structure BusSettings.ToldBy (s : BusSettings) (text : String) : Prop where
  pieces : text.toList.splitOn ',' =
    s.components.map fun component => (MatchRule.componentText component).toList
  keys : (s.components.map Prod.fst).Nodup
  values : ∀ key value, (key, value) ∈ s.components ↔
    (key = "type" ∧ value = "signal") ∨
    (key = "sender" ∧ s.sender = some value) ∨
    (key = "interface" ∧ s.interface = some value) ∨
    (key = "member" ∧ value = s.signalName) ∨
    (key = "path" ∧ s.path = some value)
  unquoted : ∀ component ∈ s.components, ∀ c ∈ component.2.toList,
    c ≠ ',' ∧ c ≠ '\''
  read : MatchRule.read? text = some s

theorem BusSettings.WellNamed.toldBy (h : s.WellNamed) : s.ToldBy s.rule.text where
  pieces := by
    rw [MatchRule.splitOn_text, s.rule_components]
    rw [s.rule_components]
    exact h.unquoted
  keys := s.nodup_components
  values _ _ := BusSettings.mem_components_iff
  unquoted component hcomponent := (h.unquoted component hcomponent).2
  read := h.read?_text

/-- A subscription has a rule exactly where it is accepted, which is where its
names are well formed; those of settings that were loaded always have one.
The text of the rule tells the subscription, and tells no other one. -/
theorem accepted_subscriptions_are_told (s : BusSettings) :
    ((∃ rule, MatchRule.ofSettings s = .ok rule) ↔ s.validate = .ok ()) ∧
    (s.validate = .ok () ↔ s.WellNamed) ∧
    (∀ path fs settings after, (load path).Ends fs (.done settings) after →
      settings.bus = s → ∃ rule, MatchRule.ofSettings s = .ok rule) ∧
    ∀ rule, MatchRule.ofSettings s = .ok rule → s.ToldBy rule.text ∧
      ∀ other otherRule, MatchRule.ofSettings other = .ok otherRule →
        otherRule.text = rule.text → other = s := by
  have haccepted : (∃ rule, MatchRule.ofSettings s = .ok rule) ↔
      s.validate = .ok () := by
    rw [BusSettings.validate_eq_ok_iff]
    simp [ofSettings_eq_ok_iff]
  have htold : ∀ {s : BusSettings} {rule}, MatchRule.ofSettings s = .ok rule →
      s.ToldBy rule.text := by
    intro s rule hrule
    obtain ⟨hnamed, rfl⟩ := ofSettings_eq_ok_iff.mp hrule
    exact (BusSettings.named_iff.mp hnamed).toldBy
  refine ⟨haccepted, ?_, ?_, ?_⟩
  · rw [BusSettings.validate_eq_ok_iff, BusSettings.named_iff]
  · rintro path fs settings after hload rfl
    exact haccepted.mpr (valid_of_load hload).1
  · intro rule hrule
    refine ⟨htold hrule, ?_⟩
    intro other otherRule hother htext
    have hread := (htold hother).read
    rw [htext, (htold hrule).read] at hread
    exact (Option.some.inj hread).symm

/-- A subscription with every filter. -/
def fullSubscription : BusSettings where
  signalName := "NowPlaying"
  interface := some "media.player.cmus"
  path := some "/media/player/cmus"
  sender := some ":1.7"

/-- The rule with every filter is told by its text, and by that of no other. -/
theorem fullSubscription_is_told : ∃ rule,
    MatchRule.ofSettings fullSubscription = .ok rule ∧
    rule.text = "type='signal',sender=':1.7',interface='media.player.cmus'," ++
      "member='NowPlaying',path='/media/player/cmus'" ∧
    MatchRule.read? rule.text = some fullSubscription := by
  obtain ⟨haccepted, -, -, htold⟩ :=
    accepted_subscriptions_are_told fullSubscription
  have hvalid : fullSubscription.validate = .ok () := by decide +kernel
  obtain ⟨rule, hrule⟩ := haccepted.mpr hvalid
  obtain rfl := (ofSettings_eq_ok_iff.mp hrule).2
  exact ⟨_, hrule, by decide +kernel, (htold _ hrule).1.read⟩

end Settings

end ScrobbleRelay
