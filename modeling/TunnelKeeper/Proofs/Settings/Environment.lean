import TunnelKeeper.Proofs.Data.Record
import TunnelKeeper.Settings.Environment

/-!
# What the environment overrides

The variables that set something are those whose names lead to a field (`Field.ofVariable?`). An
environment can be used exactly if no field is set twice and every value can be read (`Usable`), and
then every field has the value of its variable. One variable that breaks this takes all others with
it (`of_environment_spec`, by induction on the variables).
-/

namespace TunnelKeeper

/-- The settings that the environment can override. -/
inductive Field
  | wireguardMode
  | databaseUrl
  | maxConnections
  | logLevel
  | startListenPort
  | startCidrV4
  | startCidrV6
  | useIpV6
  | storagePath
  | compressionLevel
  deriving DecidableEq, Repr

/-- The kinds of values. -/
inductive FieldKind
  | text
  | word
  | port
  | truth
  deriving DecidableEq, Repr

/-- What a field is overridden with. -/
inductive FieldValue
  | text (s : String)
  | word (n : UInt32)
  | port (n : UInt16)
  | truth (b : Bool)
  deriving DecidableEq, Repr

/-- The kind of a value. -/
def FieldValue.kind : FieldValue → FieldKind
  | .text _ => .text
  | .word _ => .word
  | .port _ => .port
  | .truth _ => .truth

/-- Reads a value of a kind. -/
def FieldKind.read? : FieldKind → String → Option FieldValue
  | .text, raw => some (.text raw)
  | .word, raw =>
    (Number.readNumeral 10 UInt32.size raw.toList).toOption.map fun n => .word (UInt32.ofNat n)
  | .port, raw =>
    (Number.readNumeral 10 UInt16.size raw.toList).toOption.map fun n => .port (UInt16.ofNat n)
  | .truth, raw =>
    if raw = "true" then some (.truth true)
    else if raw = "false" then some (.truth false)
    else none

/-- What was read as a value of a kind is one. -/
theorem FieldKind.kind_of_read {k : FieldKind} {raw : String} {v : FieldValue}
    (h : k.read? raw = some v) : v.kind = k := by
  cases k with
  | text =>
      cases h
      rfl
  | word =>
      obtain ⟨n, -, rfl⟩ := Option.map_eq_some_iff.mp h
      rfl
  | port =>
      obtain ⟨n, -, rfl⟩ := Option.map_eq_some_iff.mp h
      rfl
  | truth =>
      simp only [read?] at h
      split at h
      · cases h
        rfl
      · split at h
        · cases h
          rfl
        · cases h

namespace Field

/-- The fields by name. -/
def byName : List (String × Field) :=
  [("wireguard_mode", .wireguardMode), ("database_url", .databaseUrl),
    ("max_db_connections", .maxConnections), ("log_level", .logLevel),
    ("start_listen_port", .startListenPort), ("start_cidr_v4", .startCidrV4),
    ("start_cidr_v6", .startCidrV6), ("use_ip_v6", .useIpV6),
    ("config_storage_path", .storagePath), ("compression_level", .compressionLevel)]

/-- The field of a variable: its name behind the leader, in small letters, is that of the field. -/
def ofVariable? (name : String) : Option Field :=
  (Text.stripLeading Overrides.leader name).bind fun rest =>
    byName.lookup (Text.lower (String.ofList (Overrides.afterLeaders rest.length rest.toList)))

/-- The kind of the value of a field. -/
def kind : Field → FieldKind
  | .maxConnections | .compressionLevel => .word
  | .startListenPort => .port
  | .useIpV6 => .truth
  | _ => .text

/-- Reads the value of a field. -/
def read? (f : Field) (raw : String) : Option FieldValue := f.kind.read? raw

end Field

namespace Environment

/-- The fields that an environment sets, with the texts that it sets them to. -/
def assigned (entries : List (String × String)) : List (Field × String) :=
  entries.filterMap fun v => (Field.ofVariable? v.1).map fun f => (f, v.2)

/-- No field is set twice, and every value can be read. -/
def Usable (env : Environment) : Prop :=
  ((assigned env.entries).map Prod.fst).Nodup ∧
    ∀ a ∈ assigned env.entries, (a.1.read? a.2).isSome = true

instance (env : Environment) : Decidable env.Usable :=
  inferInstanceAs (Decidable (_ ∧ _))

/-- What a field is overridden with: the value of its variable, if the environment can be used. -/
def override? (env : Environment) (f : Field) : Option FieldValue :=
  if env.Usable then ((assigned env.entries).lookup f).bind f.read? else none

/-- In an environment that can be used every variable has its way. -/
theorem override_of_usable {env : Environment} (h : env.Usable) {v : String × String}
    (hmem : v ∈ env.entries) {f : Field} (hfield : Field.ofVariable? v.1 = some f) :
    ∃ x, f.read? v.2 = some x ∧ env.override? f = some x := by
  have hassigned : (f, v.2) ∈ assigned env.entries :=
    List.mem_filterMap.mpr ⟨v, hmem, by rw [hfield]; rfl⟩
  obtain ⟨x, hread⟩ := Option.isSome_iff_exists.mp (h.2 _ hassigned)
  refine ⟨x, hread, ?_⟩
  rw [override?, if_pos h, Data.lookup_of_mem h.1 hassigned, Option.bind_some, hread]

/-- In another one no variable has. -/
theorem override_of_not_usable {env : Environment} (h : ¬ env.Usable) (f : Field) :
    env.override? f = none := if_neg h

end Environment

namespace Overrides

/-- The value of a field. -/
def value? (o : Overrides) : Field → Option FieldValue
  | .wireguardMode => o.wireguardMode.map .text
  | .databaseUrl => o.databaseUrl.map .text
  | .maxConnections => o.maxConnections.map .word
  | .logLevel => o.logLevel.map .text
  | .startListenPort => o.startListenPort.map .port
  | .startCidrV4 => o.startCidrV4.map .text
  | .startCidrV6 => o.startCidrV6.map .text
  | .useIpV6 => o.useIpV6.map .truth
  | .storagePath => o.storagePath.map .text
  | .compressionLevel => o.compressionLevel.map .word

/-- The overrides with another value of a field. A value of another kind changes nothing. -/
def put (o : Overrides) : Field → FieldValue → Overrides
  | .wireguardMode, .text s => { o with wireguardMode := some s }
  | .databaseUrl, .text s => { o with databaseUrl := some s }
  | .maxConnections, .word n => { o with maxConnections := some n }
  | .logLevel, .text s => { o with logLevel := some s }
  | .startListenPort, .port n => { o with startListenPort := some n }
  | .startCidrV4, .text s => { o with startCidrV4 := some s }
  | .startCidrV6, .text s => { o with startCidrV6 := some s }
  | .useIpV6, .truth b => { o with useIpV6 := some b }
  | .storagePath, .text s => { o with storagePath := some s }
  | .compressionLevel, .word n => { o with compressionLevel := some n }
  | _, _ => o

theorem value_put_self {f : Field} {v : FieldValue} (h : v.kind = f.kind) (o : Overrides) :
    (o.put f v).value? f = some v := by
  cases f <;> cases v <;> first | rfl | cases h

theorem value_put_other {f other : Field} (hne : other ≠ f) (o : Overrides) (v : FieldValue) :
    (o.put f v).value? other = o.value? other := by
  unfold put
  split <;> cases other <;> first | rfl | exact absurd rfl hne

/-! ## One variable -/

/-- What comes of a field that is set: it must not have been set before, and its value must be
readable. -/
inductive SetTo (o : Overrides) (f : Field) (raw : String) :
    Except EnvironmentFault Overrides → Prop
  | repeated {fault : EnvironmentFault} (h : (o.value? f).isSome = true) :
      SetTo o f raw (.error fault)
  | unread {fault : EnvironmentFault} (h : f.read? raw = none) : SetTo o f raw (.error fault)
  | set {v : FieldValue} (hfree : o.value? f = none) (hread : f.read? raw = some v) :
      SetTo o f raw (.ok (o.put f v))

/-- A field that is set once. -/
theorem set_to_once {α : Type} {o : Overrides} {f : Field} {raw field : String} {old : Option α}
    {new : Except EnvironmentFault α} {store : Option α → Overrides} (toValue : α → FieldValue)
    (hold : o.value? f = old.map toValue) (hnew : f.read? raw = new.toOption.map toValue)
    (hstore : ∀ v, store (some v) = o.put f (toValue v)) :
    SetTo o f raw (once field old new store) := by
  unfold once
  cases old with
  | some v => exact .repeated (by rw [hold]; rfl)
  | none =>
      cases new with
      | error fault => exact .unread hnew
      | ok v =>
          show SetTo o f raw (.ok (store (some v)))
          rw [hstore v]
          exact .set hold hnew

/-- A number is read alike, whatever variable it is from. -/
theorem number_to_option {limit : Nat} (name raw : String) :
    (number limit name raw).toOption = (Number.readNumeral 10 limit raw.toList).toOption := by
  unfold number
  cases Number.readNumeral 10 limit raw.toList with
  | error fault => rfl
  | ok n => rfl

theorem map_to_option {ε α β : Type} (x : Except ε α) (f : α → β) :
    (x.map f).toOption = x.toOption.map f := by
  cases x with
  | error fault => rfl
  | ok a => rfl

theorem read_number {limit : Nat} {α : Type} (name raw : String) (ofNat : Nat → α)
    (toValue : α → FieldValue) :
    ((Number.readNumeral 10 limit raw.toList).toOption.map fun n => toValue (ofNat n)) =
      ((number limit name raw).map ofNat).toOption.map toValue := by
  rw [map_to_option, number_to_option, Option.map_map]
  rfl

theorem read_truth (name raw : String) :
    FieldKind.truth.read? raw = (truthValue name raw).toOption.map .truth := by
  simp only [FieldKind.read?, truthValue]
  by_cases htrue : raw = "true"
  · rw [if_pos htrue, if_pos htrue]
    rfl
  · rw [if_neg htrue, if_neg htrue]
    by_cases hfalse : raw = "false"
    · rw [if_pos hfalse, if_pos hfalse]
      rfl
    · rw [if_neg hfalse, if_neg hfalse]
      rfl

/-- A variable with the name of a field sets it, and other variables are passed over. -/
theorem set_cases (o : Overrides) (name raw : String) :
    (Field.byName.lookup (Text.lower name) = none ∧ o.set name raw = .ok o) ∨
      ∃ f, Field.byName.lookup (Text.lower name) = some f ∧ SetTo o f raw (o.set name raw) := by
  unfold set
  generalize Text.lower name = field
  simp only
  split
  · exact .inr ⟨.wireguardMode, rfl, set_to_once .text rfl rfl fun _ => rfl⟩
  · exact .inr ⟨.databaseUrl, rfl, set_to_once .text rfl rfl fun _ => rfl⟩
  · exact .inr ⟨.maxConnections, rfl, set_to_once .word rfl (read_number name raw _ _) fun _ => rfl⟩
  · exact .inr ⟨.logLevel, rfl, set_to_once .text rfl rfl fun _ => rfl⟩
  · exact .inr ⟨.startListenPort, rfl, set_to_once .port rfl (read_number name raw _ _) fun _ => rfl⟩
  · exact .inr ⟨.startCidrV4, rfl, set_to_once .text rfl rfl fun _ => rfl⟩
  · exact .inr ⟨.startCidrV6, rfl, set_to_once .text rfl rfl fun _ => rfl⟩
  · exact .inr ⟨.useIpV6, rfl, set_to_once .truth rfl (read_truth name raw) fun _ => rfl⟩
  · exact .inr ⟨.storagePath, rfl, set_to_once .text rfl rfl fun _ => rfl⟩
  · exact .inr ⟨.compressionLevel, rfl, set_to_once .word rfl (read_number name raw _ _) fun _ => rfl⟩
  · refine .inl ⟨?_, rfl⟩
    rw [List.lookup_eq_none_iff]
    simp_all [Field.byName]

theorem take_variable_cases (o : Overrides) (v : String × String) :
    (Field.ofVariable? v.1 = none ∧ o.takeVariable v = .ok o) ∨
      ∃ f, Field.ofVariable? v.1 = some f ∧ SetTo o f v.2 (o.takeVariable v) := by
  unfold Field.ofVariable? takeVariable
  cases Text.stripLeading leader v.1 with
  | none => simp only [Option.bind_none, true_and, true_or]
  | some rest =>
      simp only [Option.bind_some]
      exact set_cases o _ v.2

/-! ## All variables -/

/-- Fields can be set one after the other: none is set twice or was set before, and every value can
be read. -/
structure Clear (o : Overrides) (l : List (Field × String)) : Prop where
  distinct : (l.map Prod.fst).Nodup
  free : ∀ a ∈ l, o.value? a.1 = none
  readable : ∀ a ∈ l, (a.1.read? a.2).isSome = true

variable {o : Overrides} {f : Field} {raw : String} {v : FieldValue}

/-- What can be set once the first field was set. -/
theorem clear_cons_iff {l : List (Field × String)} (hfree : o.value? f = none)
    (hread : f.read? raw = some v) : Clear o ((f, raw) :: l) ↔ Clear (o.put f v) l := by
  have hset := value_put_self (FieldKind.kind_of_read hread) o
  constructor
  · rintro ⟨hdistinct, hall, hreadable⟩
    rw [List.map_cons, List.nodup_cons] at hdistinct
    refine ⟨hdistinct.2, fun a ha => ?_, fun a ha => hreadable a (List.mem_cons_of_mem _ ha)⟩
    have hne : a.1 ≠ f := fun heq => hdistinct.1 (List.mem_map.mpr ⟨a, ha, heq⟩)
    rw [value_put_other hne]
    exact hall a (List.mem_cons_of_mem _ ha)
  · rintro ⟨hdistinct, hall, hreadable⟩
    -- A field that is set is none of those that are free after it.
    have hne : ∀ a ∈ l, a.1 ≠ f := by
      rintro a ha rfl
      rw [hall a ha] at hset
      cases hset
    refine ⟨List.nodup_cons.mpr ⟨fun hmem => ?_, hdistinct⟩, ?_, ?_⟩
    · obtain ⟨a, ha, heq⟩ := List.mem_map.mp hmem
      exact hne a ha heq
    · refine List.forall_mem_cons.mpr ⟨hfree, fun a ha => ?_⟩
      rw [← value_put_other (hne a ha) o v]
      exact hall a ha
    · exact List.forall_mem_cons.mpr ⟨by rw [hread]; rfl, hreadable⟩

/-- Variables that can be taken in one after the other set their fields, and other ones fail. -/
theorem fold_spec (entries : List (String × String)) (o : Overrides) :
    (Clear o (Environment.assigned entries) ∧ ∃ o', entries.foldlM takeVariable o = .ok o' ∧
        ∀ f, o'.value? f =
          (((Environment.assigned entries).lookup f).bind f.read?).or (o.value? f)) ∨
      (¬ Clear o (Environment.assigned entries) ∧
        ∃ fault, entries.foldlM takeVariable o = .error fault) := by
  induction entries generalizing o with
  | nil => exact .inl ⟨⟨List.nodup_nil, by simp [Environment.assigned], by simp [Environment.assigned]⟩,
      o, rfl, fun f => rfl⟩
  | cons w rest ih =>
      rw [List.foldlM_cons]
      rcases take_variable_cases o w with ⟨hnone, htake⟩ | ⟨f, hfield, htake⟩
      · have hassigned : Environment.assigned (w :: rest) = Environment.assigned rest := by
          unfold Environment.assigned
          rw [List.filterMap_cons_none (by rw [hnone]; rfl)]
        rw [htake, hassigned]
        exact ih o
      · have hassigned : Environment.assigned (w :: rest) =
            (f, w.2) :: Environment.assigned rest := by
          unfold Environment.assigned
          rw [List.filterMap_cons_some (by rw [hfield]; rfl)]
        rw [hassigned]
        cases hresult : o.takeVariable w with
        | error fault =>
            rw [hresult] at htake
            refine .inr ⟨fun hclear => ?_, fault, rfl⟩
            cases htake with
            | repeated hset =>
                rw [hclear.free _ List.mem_cons_self] at hset
                cases hset
            | unread hread =>
                have hreadable := hclear.readable _ List.mem_cons_self
                rw [hread] at hreadable
                cases hreadable
        | ok next =>
            rw [hresult] at htake
            cases htake with
            | @set v hfree hread =>
                rw [clear_cons_iff hfree hread]
                refine (ih (o.put f v)).imp ?_ id
                rintro ⟨hclear, o', hrest, hvalues⟩
                refine ⟨hclear, o', hrest, fun g => ?_⟩
                rw [hvalues g]
                by_cases hg : g = f
                · subst hg
                  have hset := value_put_self (FieldKind.kind_of_read hread) o
                  -- The field is not free any more, so nothing behind it sets it.
                  have hlast : (Environment.assigned rest).lookup g = none := by
                    refine Data.lookup_eq_none fun hmem => ?_
                    obtain ⟨a, ha, rfl⟩ := List.mem_map.mp hmem
                    rw [hclear.free a ha] at hset
                    cases hset
                  rw [hset, hlast, List.lookup_cons_self, Option.bind_some, hread]
                  rfl
                · rw [value_put_other hg, List.lookup_cons, beq_false_of_ne hg]

/-- An environment that can be used sets its fields, and another one overrides nothing at all. -/
theorem value_of_environment (env : Environment) (f : Field) :
    ((ofEnvironment env).toOption.getD .empty).value? f = env.override? f := by
  have hempty : ∀ g : Field, empty.value? g = none := by
    intro g
    cases g <;> rfl
  have hclear : Clear empty (Environment.assigned env.entries) ↔ env.Usable :=
    ⟨fun h => ⟨h.distinct, h.readable⟩, fun h => ⟨h.1, fun a _ => hempty a.1, h.2⟩⟩
  unfold ofEnvironment Environment.override?
  rcases fold_spec env.entries empty with ⟨h, o, hfold, hvalue⟩ | ⟨h, fault, hfold⟩
  · rw [hfold, if_pos (hclear.mp h)]
    refine (hvalue f).trans ?_
    rw [hempty f, Option.or_none]
  · rw [hfold, if_neg fun husable => h (hclear.mpr husable)]
    exact hempty f

end Overrides

end TunnelKeeper
