import MetricFeed.Writer.Properties
import MetricFeed.Writer.Samples

/-!
# Where the names of entities come from

An entity is named by what is configured for it, if that is usable, or else by its host
(`Entity.resolve_eq_ok_iff`).  A configured name is looked at before it is used and has no space, while the name of a
host is taken as it stands: so an entity has a space just where the name of its host has one, in the part that is left
if it is cut (`Entity.named_of_resolve`).  This holds for the samples and for the properties of a writer
(`Writer.entities_named`).
-/

namespace MetricFeed

namespace Entity

/-! ### Configured names -/

/-- A name that may be configured. -/
def IsUsable (name : String) : Prop :=
  name ≠ "" ∧ ' ' ∉ name.toList

theorem usable_iff {name : String} : usable name = true ↔ IsUsable name := by
  simp [usable, IsUsable]

theorem filter_usable_eq_none_iff {configured : Option String} :
    configured.filter usable = none ↔ ∀ c, configured = some c → ¬IsUsable c := by
  simp only [Option.filter_eq_none_iff, ← usable_iff]

/-! ### Hosts -/

/-- The host is this machine. -/
def IsLocal (host : String) : Prop :=
  Text.lower host = "localhost" ∨ "localhost.".toList <+: (Text.lower host).toList

theorem startsIgnoreCase_iff {s head : String} (plain : Text.lower head = head) :
    Text.startsIgnoreCase s head = true ↔ head.toList <+: (Text.lower s).toList := by
  have same : head.toList.map Char.toLower = head.toList := by
    rw [← String.ofList_inj, String.ofList_toList]
    exact plain
  unfold Text.startsIgnoreCase Text.lower
  rw [beq_iff_eq, same, String.toList_ofList, List.map_take, List.prefix_iff_eq_take, eq_comm]

theorem isLocalhost_iff {host : String} : isLocalhost host = true ↔ IsLocal host := by
  unfold isLocalhost IsLocal
  rw [Bool.or_eq_true, Text.eqIgnoreCase_iff, startsIgnoreCase_iff (by decide)]
  rfl

/-- The name of a host, or of this machine in its place. -/
def IsHostName (answer : HostAnswer) (host name : String) : Prop :=
  ¬IsLocal host ∧ name = host ∨ IsLocal host ∧ answer.localName = .ok name

theorem IsHostName.unique {answer : HostAnswer} {host name other : String} (h : IsHostName answer host name)
    (h' : IsHostName answer host other) : name = other := by
  rcases h with ⟨far, rfl⟩ | ⟨near, asked⟩
  · rcases h' with ⟨-, rfl⟩ | ⟨near, -⟩
    · rfl
    · exact absurd near far
  · rcases h' with ⟨far, -⟩ | ⟨-, asked'⟩
    · exact absurd near far
    · exact Except.ok.inj (asked.symm.trans asked')

/-! ### Cutting -/

/-- The name up to the first dot that is not its first character, or all of it. -/
structure IsFirstLabel (name label : List Char) : Prop where
  no_dot : '.' ∉ label.drop 1
  split : name = label ∨ label ≠ [] ∧ ∃ rest, name = label ++ '.' :: rest

theorem isFirstLabel_firstLabel (name : List Char) : IsFirstLabel name (firstLabel name) where
  no_dot := firstLabel_no_dot name
  split := by
    cases name with
    | nil => exact .inl rfl
    | cons c cs =>
      have parts : cs.takeWhile (· ≠ '.') ++ cs.dropWhile (· ≠ '.') = cs := List.takeWhile_append_dropWhile
      cases after : cs.dropWhile (· ≠ '.') with
      | nil =>
        rw [after, List.append_nil] at parts
        exact .inl (congrArg (c :: ·) parts.symm)
      | cons d rest =>
        have dot : d = '.' := by
          have stop := List.head?_dropWhile_not (fun c => decide (c ≠ '.')) cs
          rw [after] at stop
          simpa using stop
        rw [after, dot] at parts
        exact .inr ⟨nofun, rest, congrArg (c :: ·) parts.symm⟩

/-- What is left of the name of a host. -/
def kept (short : Bool) (name : String) : List Char :=
  if short then firstLabel name.toList else name.toList

/-! ### Naming -/

section

variable {answer : HostAnswer} {configured : Option String} {host : String} {short : Bool} {entity : String}

theorem ofHost_eq :
    ofHost answer host short =
      (if isLocalhost host then answer.localName else .ok host).map fun name => String.ofList (kept short name) := by
  have cut : ∀ name, (if short then shorten name else name) = String.ofList (kept short name) := by
    intro name
    cases short with
    | true => rfl
    | false => exact String.ofList_toList.symm
  unfold ofHost
  dsimp only
  simp only [cut]
  cases isLocalhost host with
  | false => rfl
  | true => cases answer.localName <;> rfl

theorem ofHost_eq_ok_iff :
    ofHost answer host short = .ok entity ↔ ∃ name, IsHostName answer host name ∧ entity.toList = kept short name := by
  have named : ∀ name, Except.ok (String.ofList (kept short name)) = (.ok entity : Except NameError String) ↔
      entity.toList = kept short name := by
    intro name
    rw [Except.ok.injEq, ← String.toList_inj, String.toList_ofList, eq_comm]
  rw [ofHost_eq]
  unfold IsHostName
  by_cases near : IsLocal host
  · rw [if_pos (isLocalhost_iff.2 near)]
    cases answer.localName with
    | error e => simp [near, Except.map]
    | ok name => simp [near, Except.map, named]
  · rw [if_neg fun h => near (isLocalhost_iff.1 h)]
    simp [near, Except.map, named]

/-- Either name that an entity may have. -/
theorem resolve_eq_ok_iff :
    resolve answer configured host short = .ok entity ↔
      configured = some entity ∧ IsUsable entity ∨
        (∀ c, configured = some c → ¬IsUsable c) ∧
          ∃ name, IsHostName answer host name ∧ entity.toList = kept short name := by
  unfold resolve
  cases chosen : configured.filter usable with
  | none =>
    have unusable := filter_usable_eq_none_iff.1 chosen
    dsimp only
    rw [ofHost_eq_ok_iff]
    constructor
    · exact fun named => .inr ⟨unusable, named⟩
    · rintro (⟨given, usable⟩ | ⟨-, named⟩)
      · exact absurd usable (unusable entity given)
      · exact named
  | some name =>
    obtain ⟨given, usable⟩ := Option.filter_eq_some_iff.1 chosen
    dsimp only
    rw [Except.ok.injEq]
    constructor
    · rintro rfl
      exact .inl ⟨given, usable_iff.1 usable⟩
    · rintro (⟨given', -⟩ | ⟨unusable, -⟩)
      · exact Option.some.inj (given.symm.trans given')
      · exact absurd (usable_iff.1 usable) (unusable name given)

/-- There is no name only if the machine has none for itself. -/
theorem error_of_resolve {e : NameError} (failed : resolve answer configured host short = .error e) :
    (∀ c, configured = some c → ¬IsUsable c) ∧ IsLocal host ∧ answer.localName = .error e := by
  unfold resolve at failed
  cases chosen : configured.filter usable with
  | some name =>
    rw [chosen] at failed
    cases failed
  | none =>
    rw [chosen] at failed
    dsimp only at failed
    rw [ofHost_eq] at failed
    refine ⟨filter_usable_eq_none_iff.1 chosen, ?_⟩
    by_cases near : IsLocal host
    · rw [if_pos (isLocalhost_iff.2 near)] at failed
      cases asked : answer.localName with
      | error e' =>
        rw [asked] at failed
        rw [Except.error.inj failed]
        exact ⟨near, rfl⟩
      | ok name =>
        rw [asked] at failed
        cases failed
    · rw [if_neg fun h => near (isLocalhost_iff.1 h)] at failed
      cases failed

/-- How an entity got its name. -/
structure Named (answer : HostAnswer) (configured : Option String) (host : String) (short : Bool)
    (entity : String) : Prop where
  origin : configured = some entity ∧ IsUsable entity ∨
    (∀ c, configured = some c → ¬IsUsable c) ∧
      ∃ name, IsHostName answer host name ∧ entity.toList = kept short name
  /-- A space comes from the host only. -/
  space_iff : ' ' ∈ entity.toList ↔
    (∀ c, configured = some c → ¬IsUsable c) ∧ ∃ name, IsHostName answer host name ∧ ' ' ∈ kept short name
  /-- The name of a host without a space gives none. -/
  spaceless : (∀ name, IsHostName answer host name → ' ' ∉ name.toList) → ' ' ∉ entity.toList
  /-- The name of a host that is cut is its first label. -/
  cut : short = true → (∀ c, configured = some c → ¬IsUsable c) →
    ∃ name, IsHostName answer host name ∧ IsFirstLabel name.toList entity.toList

theorem mem_of_mem_kept {name : String} {c : Char} (mem : c ∈ kept short name) : c ∈ name.toList := by
  unfold kept at mem
  cases short with
  | false => exact mem
  | true =>
    rcases (isFirstLabel_firstLabel name.toList).split with whole | ⟨-, rest, split⟩
    · rw [whole]
      exact mem
    · rw [split]
      exact List.mem_append_left _ mem

theorem named_of_resolve (resolved : resolve answer configured host short = .ok entity) :
    Named answer configured host short entity := by
  have origin := resolve_eq_ok_iff.1 resolved
  have space_iff : ' ' ∈ entity.toList ↔
      (∀ c, configured = some c → ¬IsUsable c) ∧ ∃ name, IsHostName answer host name ∧ ' ' ∈ kept short name := by
    rcases origin with ⟨given, usable⟩ | ⟨unusable, name, named, whole⟩
    · exact ⟨fun space => absurd space usable.2, fun ⟨unusable, _⟩ => absurd usable (unusable entity given)⟩
    · rw [whole]
      refine ⟨fun space => ⟨unusable, name, named, space⟩, ?_⟩
      rintro ⟨-, other, named', space⟩
      rwa [named.unique named']
  refine ⟨origin, space_iff, ?_, ?_⟩
  · intro clean space
    obtain ⟨-, name, named, kept⟩ := space_iff.1 space
    exact clean name named (mem_of_mem_kept kept)
  · rintro rfl unusable
    rcases origin with ⟨given, usable⟩ | ⟨-, name, named, whole⟩
    · exact absurd usable (unusable entity given)
    · refine ⟨name, named, ?_⟩
      rw [whole]
      exact isFirstLabel_firstLabel name.toList

end

end Entity

/-! ### Samples and properties -/

namespace Writer

/-- A valid sample and a property have an entity that got its name this way, unless the machine has none for itself. -/
theorem entities_named (x : Writer) (w : World) :
    (∀ s : Sample, (∃ e, s.validate = .error e ∧ x.prepare s w = .error (.sample e)) ∨
      (∃ e, Entity.IsLocal s.host ∧ w.machine.localName = .error e ∧ x.prepare s w = .error (.name e)) ∨
      ∃ entity, x.prepare s w = .ok entity ∧
        Entity.Named w.machine (x.node.entity.or s.entityHint) s.host x.node.shortHostname entity) ∧
    ∀ p : Property,
      (∃ e, Entity.IsLocal p.host ∧ w.machine.localName = .error e ∧ x.writeProperty p w = .fail (.name e) x w) ∨
      ∃ entity, Entity.Named w.machine x.node.entity p.host x.node.shortHostname entity ∧
        x.writeProperty p w =
          match ((p.stamped w.stamp).command entity).line with
          | .error e => .fail (.command e) x w
          | .ok line => x.sendProperty entity line w := by
  constructor
  · intro s
    unfold prepare
    cases s.validate with
    | error e => exact .inl ⟨e, rfl, rfl⟩
    | ok _ =>
      cases resolved : Entity.resolve w.machine (x.node.entity.or s.entityHint) s.host x.node.shortHostname with
      | error e =>
        obtain ⟨-, near, asked⟩ := Entity.error_of_resolve resolved
        exact .inr (.inl ⟨e, near, asked, rfl⟩)
      | ok entity => exact .inr (.inr ⟨entity, rfl, Entity.named_of_resolve resolved⟩)
  · intro p
    unfold writeProperty
    cases resolved : Entity.resolve w.machine x.node.entity p.host x.node.shortHostname with
    | error e =>
      obtain ⟨-, near, asked⟩ := Entity.error_of_resolve resolved
      exact .inl ⟨e, near, asked, rfl⟩
    | ok entity => exact .inr ⟨entity, Entity.named_of_resolve resolved, rfl⟩

end Writer

/-- A host whose name has a space gives it to its entity. -/
theorem Entity.spaced_host :
    ¬∀ answer configured host short entity,
      resolve answer configured host short = .ok entity → ' ' ∉ entity.toList := by
  intro spaceless
  have resolved : resolve (.name []) none "my host" false = .ok "my host" := rfl
  exact spaceless _ _ _ _ _ resolved (by decide)

end MetricFeed
