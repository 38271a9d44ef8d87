import TunnelKeeper.Interface
import TunnelKeeper.Proofs.Data.Record
import TunnelKeeper.Proofs.Text.Utf8

/-!
# Documents read as a whole

A table of distinct keys keeps its fields when its entries are sorted (`settle_object`): under
every key there is the settled value of the entry. A plain tree that was written as JSON is
therefore read, sorted, from the bytes of its text (`Json.read_bytes_write`).
-/

namespace TunnelKeeper

namespace Data

/-- The value of a table under a key. -/
def field? (d : Data) (key : String) : Option Data :=
  match d with
  | .table entries _ =>
    entries.findSome? fun e => if e.1.toOption = some key then some e.2 else none
  | _ => none

/-- The field of a table without damage is found among its entries. -/
theorem field_object (entries : List (String × Data)) (key : String) :
    (Data.object entries).field? key = entries.lookup key := by
  simp only [object, field?]
  induction entries with
  | nil => rfl
  | cons e entries ih =>
      obtain ⟨k, v⟩ := e
      rw [List.map_cons, List.findSome?_cons, List.lookup_cons, ih]
      by_cases hkey : k = key
      · simp [Except.toOption, hkey]
      · simp [Except.toOption, hkey, beq_eq_false_iff_ne.mpr (Ne.symm hkey)]

/-! ## Sorted entries -/

/-- An entry that is put into a sorted list is found there, and the others stay. -/
theorem lookup_insert_sorted (k : String) (v : Data) (l : List (String × Data)) (key : String) :
    (insertSorted k v l).lookup key = if key = k then some v else l.lookup key := by
  induction l with
  | nil =>
      by_cases hkey : key = k
      · simp [insertSorted, hkey]
      · simp [insertSorted, hkey, List.lookup_cons, beq_eq_false_iff_ne.mpr hkey]
  | cons e l ih =>
      obtain ⟨k', v'⟩ := e
      rw [insertSorted]
      -- The list need not be sorted: the entry replaces the first one of its key or stands before
      -- it.
      by_cases hkey : key = k
      · subst hkey
        split
        · simp
        · next hne =>
            split
            · simp
            · rw [List.lookup_cons, ih]
              simp [beq_eq_false_iff_ne.mpr hne]
      · have hbeq := beq_eq_false_iff_ne.mpr hkey
        rw [if_neg hkey] at ih ⊢
        split
        · next heq =>
            subst heq
            simp [List.lookup_cons, hbeq]
        · split
          · rw [List.lookup_cons, hbeq]
          · rw [List.lookup_cons, List.lookup_cons, ih]

/-- The value that a value settles to, if it does. -/
def settled? (depth : Nat) (d : Data) : Option Data := (settle depth d).toOption

/-- Entries of distinct keys settle among sorted ones. -/
theorem settle_entries {depth : Nat} {entries : List (String × Data)}
    (hsettle : ∀ e ∈ entries, ∃ d, settle depth e.2 = .ok d) (hkeys : (entries.map Prod.fst).Nodup)
    (sorted : List (String × Data)) :
    ∃ result, settleEntries depth sorted (Json.soundEntries entries) = .ok result ∧
      ∀ key, result.lookup key =
        ((entries.lookup key).bind (settled? depth)).or (sorted.lookup key) := by
  induction entries generalizing sorted with
  | nil => exact ⟨sorted, rfl, fun key => rfl⟩
  | cons e entries ih =>
      obtain ⟨k, v⟩ := e
      obtain ⟨d, hd⟩ := hsettle (k, v) List.mem_cons_self
      obtain ⟨hfresh, hrest⟩ := List.nodup_cons.mp hkeys
      obtain ⟨result, hresult, hlookup⟩ := ih (fun e he => hsettle e (List.mem_cons_of_mem _ he))
        hrest (insertSorted k d sorted)
      refine ⟨result, ?_, ?_⟩
      · show (settle depth v >>= fun d => settleEntries depth (insertSorted k d sorted)
          (Json.soundEntries entries)) = _
        rw [hd]
        exact hresult
      · intro key
        rw [hlookup, lookup_insert_sorted, List.lookup_cons]
        by_cases hkey : key = k
        · subst hkey
          have hnone : entries.lookup key = none := lookup_eq_none hfresh
          simp [hnone, settled?, hd, Except.toOption]
        · simp [beq_eq_false_iff_ne.mpr hkey, hkey]

/-- A table of distinct keys settles, and its fields are those of its entries, settled. -/
theorem settle_object {depth : Nat} {entries : List (String × Data)}
    (hsettle : ∀ e ∈ entries, ∃ d, settle depth e.2 = .ok d)
    (hkeys : (entries.map Prod.fst).Nodup) :
    ∃ result, settle (depth + 1) (.object entries) = .ok result ∧
      ∀ key, result.field? key = (entries.lookup key).bind (settled? depth) := by
  obtain ⟨result, hresult, hlookup⟩ := settle_entries hsettle hkeys []
  refine ⟨.object result, ?_, ?_⟩
  · show (settleEntries depth [] (Json.soundEntries entries) >>= fun entries =>
      Except.ok (Data.object entries)) = _
    rw [hresult]
    rfl
  · intro key
    rw [field_object, hlookup, List.lookup_nil, Option.or_none]

/-! ## Values without tables -/

@[simp]
theorem settle_text (depth : Nat) (s : String) : settle depth (.text s) = .ok (.text s) := by
  simp [settle]

@[simp]
theorem settle_nat (depth n : Nat) : settle depth (.nat n) = .ok (.nat n) := by
  simp [nat, settle]

theorem settled_of_settle {depth : Nat} {d result : Data} (h : settle depth d = .ok result) :
    settled? depth d = some result := by
  rw [settled?, h]
  rfl

@[simp]
theorem settled_text (depth : Nat) (s : String) : settled? depth (.text s) = some (.text s) :=
  settled_of_settle (settle_text depth s)

@[simp]
theorem settled_nat (depth n : Nat) : settled? depth (.nat n) = some (.nat n) :=
  settled_of_settle (settle_nat depth n)

/-- A list of one value settles with the value. -/
theorem settle_singleton {depth : Nat} {d result : Data} (h : settle depth d = .ok result) :
    settle (depth + 1) (.list [d]) = .ok (.list [result]) := by
  simp [list, settle, settleItems, h, bind, Except.bind]

/-- A list of texts settles to itself. -/
theorem settle_texts (depth : Nat) (l : List String) :
    settle (depth + 1) (.texts l) = .ok (.texts l) := by
  have hitems : settleItems depth (l.map .text) = .ok (l.map .text) := by
    induction l with
    | nil => rfl
    | cons s l ih => simp [settleItems, ih, bind, Except.bind]
  simp [texts, list, settle, hitems, bind, Except.bind]

end Data

namespace Json

/-- What was written for a plain tree is read, with the entries of its tables sorted. -/
theorem read_settled_write {d : Data} (h : d.Plain) :
    readSettled (writeValue d) = d.settle Data.depthLimit := by
  rw [readSettled, read_document_write h]
  show (d.settle Data.depthLimit >>= fun data => Except.ok data) = _
  cases d.settle Data.depthLimit <;> rfl

/-- The bytes of a document are read like the document. -/
theorem read_bytes_write {d : Data} (h : d.Plain) :
    readBytes (Text.encodeUtf8 (writeValue d)) = d.settle Data.depthLimit := by
  rw [readBytes, Text.decode_utf8_encode_utf8]
  exact read_settled_write h

end Json

end TunnelKeeper
