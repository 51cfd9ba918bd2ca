import MetricFeed.Settings.Basic

/-!
# The plugins that accepted settings enrol

Settings are accepted exactly if the numbers of the node are in range, every policy names a plugin and has a threshold
that can be one, and no two policies name the same plugin (`Settings.Acceptable`, `Settings.validate_eq_ok_iff`).  Of
several policies of a plugin only the last one holds (`Settings.policy?_eq`), so it is the last condition that makes
each policy the one of its plugin (`Settings.enrolled_as_listed`).
-/

namespace MetricFeed

/-- What a check lets through. -/
theorem check_eq_ok_iff {ε α : Type} {c : Prop} [Decidable c] {e : ε} {x : Except ε α} {a : α} :
    (if c then .error e else x) = .ok a ↔ ¬c ∧ x = .ok a := by
  by_cases h : c <;> simp [h]

/-! ### The node -/

/-- There is a host, and the numbers are in range. -/
structure NodeSettings.InRange (n : NodeSettings) : Prop where
  host : ∃ c ∈ n.host.toList, Text.isBlank c = false
  port : n.port ≠ 0
  bufferSize : n.bufferSize ≠ 0
  maxNameLength : n.maxNameLength ≠ 0
  propertyInterval : 1 ≤ n.propertyInterval ∧ n.propertyInterval ≤ 300

theorem Text.not_allBlank_iff {s : String} : ¬allBlank s = true ↔ ∃ c ∈ s.toList, isBlank c = false := by
  unfold allBlank
  rw [Bool.not_eq_true, List.all_eq_false]
  simp only [Bool.not_eq_true]

theorem NodeSettings.validate_eq_ok_iff (n : NodeSettings) : n.validate = .ok () ↔ n.InRange := by
  have interval : ¬(n.propertyInterval = 0 || maxPropertyInterval < n.propertyInterval) = true ↔
      1 ≤ n.propertyInterval ∧ n.propertyInterval ≤ 300 := by
    rw [Bool.or_eq_true, decide_eq_true_eq, decide_eq_true_eq]
    unfold maxPropertyInterval
    omega
  unfold validate
  rw [check_eq_ok_iff, check_eq_ok_iff, check_eq_ok_iff, check_eq_ok_iff, check_eq_ok_iff, Text.not_allBlank_iff,
    interval]
  constructor
  · rintro ⟨host, port, bufferSize, maxNameLength, propertyInterval, -⟩
    exact ⟨host, port, bufferSize, maxNameLength, propertyInterval⟩
  · rintro ⟨host, port, bufferSize, maxNameLength, propertyInterval⟩
    exact ⟨host, port, bufferSize, maxNameLength, propertyInterval, rfl⟩

/-! ### Policies -/

/-- A policy names a plugin, and its threshold is a finite number that is not below zero. -/
structure PluginPolicy.Usable (p : PluginPolicy) : Prop where
  plugin : p.plugin ≠ ""
  finite : p.policy.threshold.isFinite = true
  least : ¬p.policy.threshold < 0

theorem PluginPolicy.usable_iff (p : PluginPolicy) : p.Usable ↔ p.plugin ≠ "" ∧ p.policy.isValid = true := by
  unfold Policy.isValid
  simp only [Bool.and_eq_true, Bool.not_eq_true', decide_eq_false_iff_not]
  constructor
  · rintro ⟨plugin, finite, least⟩
    exact ⟨plugin, finite, least⟩
  · rintro ⟨plugin, finite, least⟩
    exact ⟨plugin, finite, least⟩

namespace Settings

theorem validatePolicies_cons_eq_ok_iff (seen : List String) (p : PluginPolicy) (ps : List PluginPolicy) :
    validatePolicies seen (p :: ps) = .ok () ↔
      p.Usable ∧ p.plugin ∉ seen ∧ validatePolicies (p.plugin :: seen) ps = .ok () := by
  rw [validatePolicies, check_eq_ok_iff, check_eq_ok_iff, check_eq_ok_iff, p.usable_iff, String.isEmpty_iff,
    Bool.not_eq_true', Bool.not_eq_false, List.contains_iff_mem, and_assoc]

/-- The walk along the policies comes to its end exactly if they are usable, none has a name that was seen before, and
no two have the same name. -/
theorem validatePolicies_eq_ok_iff (seen : List String) (ps : List PluginPolicy) :
    validatePolicies seen ps = .ok () ↔
      (∀ p ∈ ps, p.Usable ∧ p.plugin ∉ seen) ∧ ps.Pairwise fun p q => p.plugin ≠ q.plugin := by
  induction ps generalizing seen with
  | nil => simp [validatePolicies]
  | cons p ps ih =>
    rw [validatePolicies_cons_eq_ok_iff, ih, List.pairwise_cons, List.forall_mem_cons]
    -- the names seen on the way are those that the policies behind have to differ from
    constructor
    · rintro ⟨usable, new, others, distinct⟩
      refine ⟨⟨⟨usable, new⟩, fun q mem => ?_⟩, fun q mem same => ?_, distinct⟩
      · exact ⟨(others q mem).1, fun known => (others q mem).2 (List.mem_cons_of_mem _ known)⟩
      · exact (others q mem).2 (same ▸ List.mem_cons_self)
    · rintro ⟨⟨⟨usable, new⟩, others⟩, apart, distinct⟩
      refine ⟨usable, new, fun q mem => ⟨(others q mem).1, fun known => ?_⟩, distinct⟩
      rcases List.mem_cons.1 known with same | known
      · exact apart q mem same.symm
      · exact (others q mem).2 known

/-- What settings have to be like. -/
structure Acceptable (s : Settings) : Prop where
  node : s.node.InRange
  policies : ∀ p ∈ s.policies, p.Usable
  distinct : s.policies.Pairwise fun p q => p.plugin ≠ q.plugin

theorem validate_eq_ok_iff (s : Settings) : s.validate = .ok () ↔ s.Acceptable := by
  have both : s.validate = .ok () ↔ s.node.validate = .ok () ∧ validatePolicies [] s.policies = .ok () := by
    unfold validate
    cases s.node.validate with
    | ok _ => exact ⟨fun valid => ⟨rfl, valid⟩, fun valid => valid.2⟩
    | error e => exact ⟨nofun, nofun⟩
  rw [both, NodeSettings.validate_eq_ok_iff, validatePolicies_eq_ok_iff]
  constructor
  · rintro ⟨node, policies, distinct⟩
    exact ⟨node, fun p mem => (policies p mem).1, distinct⟩
  · rintro ⟨node, policies, distinct⟩
    exact ⟨node, fun p mem => ⟨policies p mem, List.not_mem_nil⟩, distinct⟩

/-! ### Looking a policy up -/

/-- The last policy of a plugin holds. -/
theorem policy?_eq (s : Settings) (plugin : String) :
    s.filter.policy? plugin = (s.policies.reverse.find? fun p => p.plugin = plugin).map PluginPolicy.policy := by
  unfold ChangeFilter.policy? filter
  dsimp only
  rw [← List.map_reverse]
  induction s.policies.reverse with
  | nil => rfl
  | cons p ps ih =>
    rw [List.map_cons, List.lookup_cons, List.find?_cons]
    by_cases same : p.plugin = plugin
    · simp [same]
    · have other : (plugin == p.plugin) = false := beq_eq_false_iff_ne.2 (Ne.symm same)
      simp [same, other, ih]

theorem tracks_iff (s : Settings) (plugin : String) :
    s.filter.tracks plugin = true ↔ ∃ p ∈ s.policies, p.plugin = plugin := by
  unfold ChangeFilter.tracks
  rw [policy?_eq, Option.isSome_map, List.find?_isSome]
  simp

/-- Policies of different plugins do not stand in each other's way. -/
theorem policy?_eq_some_iff {s : Settings} (distinct : s.policies.Pairwise fun p q => p.plugin ≠ q.plugin)
    (plugin : String) (policy : Policy) :
    s.filter.policy? plugin = some policy ↔ ∃ p ∈ s.policies, p.plugin = plugin ∧ p.policy = policy := by
  rw [policy?_eq, Option.map_eq_some_iff]
  constructor
  · rintro ⟨p, found, same⟩
    have mem := List.mem_reverse.1 (List.mem_of_find?_eq_some found)
    have named := List.find?_some found
    exact ⟨p, mem, by simpa using named, same⟩
  · rintro ⟨p, mem, named, same⟩
    refine ⟨p, ?_, same⟩
    obtain ⟨before, after, split⟩ := List.append_of_mem mem
    rw [split, List.pairwise_append, List.pairwise_cons] at distinct
    -- the policies behind it, which would take its place, have other names
    rw [split, List.reverse_append, List.reverse_cons, List.append_assoc, List.find?_append]
    have others : after.reverse.find? (fun q => q.plugin = plugin) = none := by
      rw [List.find?_eq_none]
      intro q behind
      have apart := distinct.2.1.1 q (List.mem_reverse.1 behind)
      rw [named] at apart
      simpa using Ne.symm apart
    simp [others, named]

/-- Settings are accepted exactly if they are acceptable.  The filter of accepted settings tracks the plugins that are
named and no others, and the policy of a plugin is the one that was given for it. -/
theorem enrolled_as_listed (s : Settings) :
    (s.validate = .ok () ↔ s.Acceptable) ∧
      (s.validate = .ok () → ∀ plugin,
        (s.filter.tracks plugin = true ↔ ∃ p ∈ s.policies, p.plugin = plugin) ∧
        ∀ policy, s.filter.policy? plugin = some policy ↔
          ∃ p ∈ s.policies, p.plugin = plugin ∧ p.policy = policy) := by
  refine ⟨s.validate_eq_ok_iff, fun valid plugin => ⟨s.tracks_iff plugin, fun policy => ?_⟩⟩
  exact policy?_eq_some_iff (s.validate_eq_ok_iff.1 valid).distinct plugin policy

/-- Two plugins whose names differ in case only. -/
theorem enrolled_as_listed_case :
    let s : Settings := { policies := [⟨"cpu", ⟨60, 5⟩⟩, ⟨"CPU", ⟨0, 0⟩⟩] }
    s.validate = .ok () ∧ s.filter.policy? "cpu" = some ⟨60, 5⟩ ∧ s.filter.policy? "CPU" = some ⟨0, 0⟩ ∧
      s.filter.tracks "Cpu" = false := by
  have valid : Settings.validate { policies := [⟨"cpu", ⟨60, 5⟩⟩, ⟨"CPU", ⟨0, 0⟩⟩] } = .ok () := rfl
  intro s
  have enrolled := (enrolled_as_listed s).2 valid
  refine ⟨valid, ((enrolled "cpu").2 _).2 ⟨_, .head _, rfl, rfl⟩,
    ((enrolled "CPU").2 _).2 ⟨_, .tail _ (.head _), rfl, rfl⟩, ?_⟩
  have absent : ¬∃ p ∈ s.policies, p.plugin = "Cpu" := by simp [s]
  exact Bool.eq_false_iff.2 fun tracked => absent ((enrolled "Cpu").1.1 tracked)

end Settings

end MetricFeed
