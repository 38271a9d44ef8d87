import TunnelKeeper.CommandLine.Basic
import TunnelKeeper.Proofs.Data.Record
import TunnelKeeper.Proofs.Provisioning.Build

/-!
# Variables in place of options

An option that is not on the command line has the value of its variable. `TakenIn` says what is known
once some variables were taken in: nothing that was given changes, and every variable that was needed
could be read. It is carried from one variable to the next (`taken_in_of_fold`), and `read_spec` says
of a whole command line that its settings are those of the words and, behind them, of the variables.
-/

namespace TunnelKeeper.CommandLine

/-- The text that a value is. -/
def Value.text? : Value → Option String
  | .text s => some s
  | _ => none

/-- The number that a value is. -/
def Value.number? : Value → Option Nat
  | .number n => some n
  | _ => none

theorem text_of_eq {κ : Type} [DecidableEq κ] (r : Reading κ) (key : κ) :
    textOf? r key = (r.value? key).bind Value.text? := by
  unfold textOf?
  cases r.value? key with
  | none => rfl
  | some v => cases v <;> rfl

theorem number_of_eq {κ : Type} [DecidableEq κ] (r : Reading κ) (key : κ) :
    numberOf? r key = (r.value? key).bind Value.number? := by
  unfold numberOf?
  cases r.value? key with
  | none => rfl
  | some v => cases v <;> rfl

/-- What a variable says, if it is set to something that can be read. -/
def variableValue? (env : Environment) (v : String × ValueKind) : Option Value :=
  (env.value? v.1).bind fun s => (v.2.read s).toOption

/-- What the variable of an option says. -/
def standIn? (env : Environment) (key : Key) : Option Value :=
  (standIns.lookup key).bind (variableValue? env)

/-- The value of an option: the one that was given, or else that of its variable. -/
def spoken? (env : Environment) (r : Reading Key) (key : Key) : Option Value :=
  (r.value? key).or (standIn? env key)

/-- The options that words give in front of the command. -/
def given (words : List String) : Except UsageFault (Reading Key) := do
  let (r, _) ← grammar.read .start words
  r.close

/-! ## Taking variables in -/

variable {env : Environment} {r r' : Reading Key} {v : Key × String × ValueKind}
  {l : List (Key × String × ValueKind)}

/-- What is known once variables were taken in. -/
structure TakenIn (env : Environment) (l : List (Key × String × ValueKind)) (r r' : Reading Key) :
    Prop where
  values : ∀ key, r'.value? key = (r.value? key).or ((l.lookup key).bind (variableValue? env))
  readable : ∀ v ∈ l, r.value? v.1 = none → ∀ s, env.value? v.2.1 = some s →
    ∃ x, v.2.2.read s = .ok x

/-- An option that is added behind others. -/
theorem value_append (r : Reading Key) (key other : Key) (x : Value) :
    ({ r with given := r.given ++ [(key, x)] } : Reading Key).value? other =
      (r.value? other).or (if other = key then some x else none) := by
  unfold Reading.value?
  rw [List.find?_append, Option.map_or]
  by_cases h : other = key
  · subst h
    simp
  · simp [h, Ne.symm h]

/-- One variable sets its own option, if that is not given. -/
theorem taken_in_one
    (hvalues : ∀ key, r'.value? key =
      (r.value? key).or (if key = v.1 then variableValue? env v.2 else none))
    (hreadable : r.value? v.1 = none → ∀ s, env.value? v.2.1 = some s → ∃ x, v.2.2.read s = .ok x) :
    TakenIn env [v] r r' where
  values key := by
    rw [hvalues, List.lookup_cons]
    by_cases h : key = v.1
    · rw [if_pos h, beq_iff_eq.mpr h]
      rfl
    · rw [if_neg h, beq_false_of_ne h]
      rfl
  readable w hw := by
    rw [List.mem_singleton.mp hw]
    exact hreadable

theorem taken_in_of_add (h : addVariable env r v = .ok r') : TakenIn env [v] r r' := by
  unfold addVariable at h
  cases hgiven : r.value? v.1 with
  | some old =>
      rw [hgiven] at h
      cases h
      refine taken_in_one (fun key => ?_) fun hnone => ?_
      · by_cases hkey : key = v.1
        · rw [hkey, hgiven]
          rfl
        · rw [if_neg hkey, Option.or_none]
      · rw [hgiven] at hnone
        cases hnone
  | none =>
      rw [hgiven] at h
      cases hset : env.value? v.2.1 with
      | none =>
          rw [hset] at h
          cases h
          refine taken_in_one (fun key => ?_) fun _ s hs => ?_
          · rw [variableValue?, hset, Option.bind_none, ite_self, Option.or_none]
          · rw [hset] at hs
            cases hs
      | some s =>
          rw [hset] at h
          obtain ⟨x, hread, h⟩ := except_bind_eq_ok_iff.mp h
          cases h
          refine taken_in_one (fun key => ?_) fun _ t ht => ?_
          · rw [value_append, variableValue?, hset, Option.bind_some, hread]
            rfl
          · rw [hset] at ht
            cases ht
            exact ⟨x, hread⟩

/-- One variable before others, of which none is for the same option. -/
theorem TakenIn.cons {mid : Reading Key} (hkeys : ((v :: l).map Prod.fst).Nodup)
    (hfirst : TakenIn env [v] r mid) (hrest : TakenIn env l mid r') : TakenIn env (v :: l) r r' := by
  obtain ⟨key, name, kind⟩ := v
  obtain ⟨hfresh, -⟩ := List.nodup_cons.mp hkeys
  have hkept : ∀ other, other ≠ key → mid.value? other = r.value? other := by
    intro other hne
    rw [hfirst.values, List.lookup_cons, beq_false_of_ne hne]
    exact Option.or_none
  refine ⟨fun other => ?_, List.forall_mem_cons.mpr ⟨hfirst.readable _ List.mem_cons_self, ?_⟩⟩
  · rw [hrest.values]
    by_cases hne : other = key
    · rw [hne, hfirst.values, Data.lookup_eq_none hfresh, Option.bind_none, Option.or_none,
        List.lookup_cons_self, List.lookup_cons_self]
    · rw [hkept other hne, List.lookup_cons, beq_false_of_ne hne]
  · intro w hw hnone
    have hne : w.1 ≠ key := fun h => hfresh (List.mem_map.mpr ⟨w, hw, h⟩)
    exact hrest.readable w hw ((hkept _ hne).trans hnone)

/-- All variables, by induction on them. -/
theorem taken_in_of_fold (hkeys : (l.map Prod.fst).Nodup)
    (h : l.foldlM (addVariable env) r = .ok r') : TakenIn env l r r' := by
  induction l generalizing r with
  | nil =>
      cases h
      exact ⟨fun key => Option.or_none.symm, fun v hv => absurd hv List.not_mem_nil⟩
  | cons v l ih =>
      rw [List.foldlM_cons] at h
      obtain ⟨mid, hadd, h⟩ := except_bind_eq_ok_iff.mp h
      exact (taken_in_of_add hadd).cons hkeys (ih (List.nodup_cons.mp hkeys).2 h)

/-! ## Whole command lines -/

/-- What a command line is made of: what the words give and, for options that are not among that, what
the variables say. -/
structure Resolved (env : Environment) (r : Reading Key) (c : CommandLine) : Prop where
  configPath : c.configPath =
    ((spoken? env r .configPath).bind Value.text?).getD usualConfigPath
  databaseUrl : c.databaseUrl = (spoken? env r .databaseUrl).bind Value.text?
  maxConnections : c.maxConnections =
    ((spoken? env r .maxConnections).bind Value.number?).map UInt32.ofNat
  storagePath : c.storagePath = (spoken? env r .storagePath).bind Value.text?
  startListenPort : c.startListenPort =
    ((spoken? env r .startListenPort).bind Value.number?).map UInt16.ofNat
  logLevel : c.logLevel = (spoken? env r .logLevel).bind Value.text?
  debug : c.debug = (spoken? env r .debug == some (.on true))
  /-- A variable that cannot be read is complained about, unless its option is given. -/
  readable : ∀ v ∈ standIns, r.value? v.1 = none → ∀ s, env.value? v.2.1 = some s →
    ∃ x, v.2.2.read s = .ok x

/-- What a command line that can be read is made of. -/
theorem read_spec {words : List String} {c : CommandLine} (h : read env words = .ok c) :
    ∃ r, given words = .ok r ∧ Resolved env r c := by
  obtain ⟨⟨r, behind⟩, hwords, h⟩ := except_bind_eq_ok_iff.mp h
  have hnamed : ∃ command, (r.close >>= fun r => standIns.foldlM (addVariable env) r >>= fun r =>
      Except.ok (ofReading r command)) = .ok c := by
    cases behind with
    | none => exact ⟨.bootstrap, h⟩
    | some named =>
        obtain ⟨command, -, h⟩ := except_bind_eq_ok_iff.mp h
        exact ⟨command, h⟩
  obtain ⟨command, h⟩ := hnamed
  obtain ⟨closed, hclose, h⟩ := except_bind_eq_ok_iff.mp h
  obtain ⟨full, hfold, h⟩ := except_bind_eq_ok_iff.mp h
  cases h
  have htaken : TakenIn env standIns closed full := taken_in_of_fold (by decide) hfold
  have hvalue : ∀ key, full.value? key = spoken? env closed key := htaken.values
  refine ⟨closed, except_bind_eq_ok_iff.mpr ⟨_, hwords, hclose⟩, ?_⟩
  constructor <;> try simp only [ofReading, text_of_eq, number_of_eq, hvalue]
  exact htaken.readable

end TunnelKeeper.CommandLine
