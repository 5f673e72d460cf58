import Mathlib

set_option autoImplicit false

-- Entries that are recorded one by one in a table, each under its key.
namespace Records

variable {Entry : Type} (key : Entry → Nat)

abbrev Table (Entry : Type) := Std.ExtTreeMap Nat Entry

def record (table : Table Entry) (entries : List Entry) : Table Entry :=
  entries.foldl (fun table entry => table.insert (key entry) entry) table

def latest (entries : List Entry) (id : Nat) : Option Entry := entries.reverse.find? fun entry => key entry = id

def met (table : Table Entry) : List Entry → List (Table Entry × Entry)
  | [] => []
  | entry :: rest => (table, entry) :: met (table.insert (key entry) entry) rest

def keys (entries : List Entry) : Finset Nat := (entries.map key).toFinset

theorem record_append (table : Table Entry) (first second : List Entry) :
    record key table (first ++ second) = record key (record key table first) second :=
  List.foldl_append

theorem latest_append (first second : List Entry) (id : Nat) :
    latest key (first ++ second) id = (latest key second id).or (latest key first id) := by
  rw [latest, List.reverse_append, List.find?_append]
  rfl

theorem latest_cons (entry : Entry) (rest : List Entry) (id : Nat) :
    latest key (entry :: rest) id = (latest key rest id).or (if key entry = id then some entry else none) := by
  rw [← List.singleton_append, latest_append]
  by_cases same : key entry = id <;> simp [latest, same]

theorem record_get (table : Table Entry) (entries : List Entry) (id : Nat) :
    (record key table entries)[id]? = (latest key entries id).or table[id]? := by
  induction entries generalizing table with
  | nil => rfl
  | cons entry rest ih =>
      rw [record, List.foldl_cons, ← record, ih, ← List.singleton_append, latest_append, Std.ExtTreeMap.getElem?_insert]
      cases latest key rest id with
      | some later => rfl
      | none =>
          by_cases same : key entry = id
          · simp [latest, same]
          · simp [latest, same]

theorem latest_is_some_iff (entries : List Entry) (id : Nat) :
    (latest key entries id).isSome = true ↔ id ∈ keys key entries := by
  simp [latest, keys]

theorem latest_of_mem (entries : List Entry) (entry : Entry) (member : entry ∈ entries) :
    ∃ prev, latest key entries (key entry) = some prev ∧ prev ∈ entries ∧ key prev = key entry := by
  have listed : key entry ∈ keys key entries := List.mem_toFinset.mpr (List.mem_map_of_mem member)
  obtain ⟨prev, last⟩ := Option.isSome_iff_exists.mp ((latest_is_some_iff key entries _).mpr listed)
  exact ⟨prev, last, List.mem_reverse.mp (List.mem_of_find?_eq_some last), by simpa using List.find?_some last⟩

theorem mem_record (table : Table Entry) (entries : List Entry) (id : Nat) :
    id ∈ record key table entries ↔ id ∈ keys key entries ∨ id ∈ table := by
  rw [Std.ExtTreeMap.mem_iff_isSome_getElem?, record_get, Option.isSome_or, Bool.or_eq_true, latest_is_some_iff,
    ← Std.ExtTreeMap.mem_iff_isSome_getElem?]

theorem record_size (table : Table Entry) (entries : List Entry) :
    (record key table entries).size = (keys key entries ∪ table.keys.toFinset).card := by
  rw [← Std.ExtTreeMap.length_keys, ← List.toFinset_card_of_nodup Std.ExtTreeMap.nodup_keys]
  congr 1
  ext id
  rw [List.mem_toFinset, Std.ExtTreeMap.mem_keys, mem_record, Finset.mem_union, List.mem_toFinset, Std.ExtTreeMap.mem_keys]

theorem met_get (table : Table Entry) (entries : List Entry) (index : Nat) :
    (met key table entries)[index]? = entries[index]?.map fun entry => (record key table (entries.take index), entry) := by
  induction entries generalizing table index with
  | nil => rfl
  | cons entry rest ih =>
      cases index with
      | zero => rfl
      | succ index =>
          rw [met, List.getElem?_cons_succ, List.getElem?_cons_succ, ih]
          rfl

-- Entries that are recorded a second time come upon a table with all of their keys: its
-- size stays, and under an entry's own key it holds the latest of them.
theorem met_again (table : Table Entry) (entries : List Entry) (index : Nat) (entry : Entry)
    (found : entries[index]? = some entry) :
    (record key (record key table entries) (entries.take index)).size = (keys key entries ∪ table.keys.toFinset).card ∧
      ∃ prev, latest key (entries ++ entries.take index) (key entry) = some prev ∧
        (record key (record key table entries) (entries.take index))[key entry]? = some prev := by
  rw [← record_append]
  refine ⟨?_, ?_⟩
  · have same : keys key (entries ++ entries.take index) = keys key entries := by
      ext id
      simp only [keys, List.mem_toFinset, List.mem_map, List.mem_append]
      refine ⟨?_, fun ⟨other, member, here⟩ => ⟨other, Or.inl member, here⟩⟩
      intro ⟨other, member, here⟩
      obtain kept | early := member
      · exact ⟨other, kept, here⟩
      · exact ⟨other, List.mem_of_mem_take early, here⟩
    rw [record_size, same]
  · obtain ⟨prev, last, _⟩ := latest_of_mem key (entries ++ entries.take index) entry
      (List.mem_append_left _ (List.mem_of_getElem? found))
    refine ⟨prev, last, ?_⟩
    rw [record_get, last]
    rfl

def ResentQuietly (size : Nat) (recorded : Finset Nat) (entries : List Entry) (quiet : Entry → Entry → Prop) : Prop :=
  ∀ (index : Nat) (entry : Entry), entries[index]? = some entry →
    size = (keys key entries ∪ recorded).card ∧
      ∃ prev, latest key (entries ++ entries.take index) (key entry) = some prev ∧ quiet prev entry

theorem met_again_iff (size : Nat) (table : Table Entry) (entries : List Entry) (quiet : Entry → Entry → Prop) (fallback : Entry) :
    (∀ turn ∈ met key (record key table entries) entries,
        size = turn.1.size ∧ quiet (turn.1.getD (key turn.2) fallback) turn.2) ↔
      ResentQuietly key size table.keys.toFinset entries quiet := by
  have turn_iff : ∀ (index : Nat) (entry : Entry), entries[index]? = some entry →
      (size = (record key (record key table entries) (entries.take index)).size ∧
          quiet ((record key (record key table entries) (entries.take index)).getD (key entry) fallback) entry ↔
        size = (keys key entries ∪ table.keys.toFinset).card ∧
          ∃ prev, latest key (entries ++ entries.take index) (key entry) = some prev ∧ quiet prev entry) := by
    intro index entry found
    obtain ⟨same, prev, last, held⟩ := met_again key table entries index entry found
    rw [same, last, Std.ExtTreeMap.getD_eq_getD_getElem?, held]
    simp
  refine ⟨?_, ?_⟩
  · intro all index entry found
    refine (turn_iff index entry found).mp (all (_, entry) (List.mem_of_getElem? (i := index) ?_))
    rw [met_get, found]
    rfl
  · intro resent turn member
    obtain ⟨index, found⟩ := List.mem_iff_getElem?.mp member
    rw [met_get, Option.map_eq_some_iff] at found
    obtain ⟨entry, listed, same⟩ := found
    rw [← same]
    exact (turn_iff index entry listed).mpr (resent index entry listed)

theorem resent_quietly_distinct_iff (size : Nat) (recorded : Finset Nat) (entries : List Entry)
    (distinct : (entries.map key).Nodup) (quiet : Entry → Entry → Prop) :
    ResentQuietly key size recorded entries quiet ↔
      ∀ entry ∈ entries, size = (keys key entries ∪ recorded).card ∧ quiet entry entry := by
  have own : ∀ (index : Nat) (entry : Entry), entries[index]? = some entry →
      latest key (entries ++ entries.take index) (key entry) = some entry := by
    intro index entry found
    have member := List.mem_of_getElem? found
    obtain ⟨prev, last, place, same⟩ := latest_of_mem key (entries ++ entries.take index) entry (List.mem_append_left _ member)
    have here : prev ∈ entries := (List.mem_append.mp place).elim id List.mem_of_mem_take
    rw [last, List.inj_on_of_nodup_map distinct here member same]
  refine ⟨?_, ?_⟩
  · intro resent entry member
    obtain ⟨index, found⟩ := List.mem_iff_getElem?.mp member
    obtain ⟨counted, prev, last, here⟩ := resent index entry found
    rw [own index entry found, Option.some.injEq] at last
    exact ⟨counted, last ▸ here⟩
  · intro all index entry found
    obtain ⟨counted, here⟩ := all entry (List.mem_of_getElem? found)
    exact ⟨counted, entry, own index entry found, here⟩

end Records
